import RepoWatch.Proofs.Watch.Advance
/-!
# The script of a watch

The events of a watch follow a small grammar: they tell how the query is resolved, which depends on
the policy, then that this is done, and from then on which cached data is new. In every phase it is
known which part of a script has been sent.
-/

namespace RepoWatch

/-- What a policy reports before it turns to the network. -/
inductive Lookup : Policy → List Event → Prop where
  | networkOnly : Lookup .networkOnly []
  | cacheFirst : Lookup .cacheFirst [.progress .fetchCache]
  | cacheAndNetworkMiss : Lookup .cacheAndNetwork [.progress .fetchCache]
  | cacheAndNetworkHit (data : Json) :
      Lookup .cacheAndNetwork [.progress .fetchCache, .response data true]

/-- What the request of the network reports. -/
inductive NetworkPart : List Event → Prop where
  | response (data : Json) : NetworkPart [.progress .fetchNetwork, .response data false]
  | failure (fault : QueryFault) : NetworkPart [.progress .fetchNetwork, .failure fault]

/-- How the resolution of a query by a policy is reported. -/
inductive Resolution (query : Query) : Policy → List Event → Prop where
  | cacheOnlyHit (data : Json) :
      Resolution query .cacheOnly [.progress .fetchCache, .response data true]
  | cacheOnlyMiss :
      Resolution query .cacheOnly
        [.progress .fetchCache, .failure (.cacheMiss query.text)]
  | cacheFirstHit (data : Json) :
      Resolution query .cacheFirst [.progress .fetchCache, .response data true]
  | network {policy : Policy} {before part : List Event} (hbefore : Lookup policy before)
      (hpart : NetworkPart part) : Resolution query policy (before ++ part)

/-- A script: the resolution, reported as begun and as done, and then data from the cache. -/
inductive Transcript (query : Query) (policy : Policy) : List Event → Prop where
  | intro {resolution changes : List Event} (hresolution : Resolution query policy resolution)
      (hchanges : ∀ event ∈ changes, ∃ data, event = .response data true) :
      Transcript query policy
        (.progress .scheduled :: (resolution ++ .progress .completed :: changes))

/-- The part of a script that a watch has sent, by the phase in which it is. -/
def Watch.HasSent (x : Watch) (es : List Event) : Prop :=
  match x.phase with
  | .created => es = []
  | .announcingRead => x.policy ≠ .networkOnly ∧ es = [.progress .scheduled]
  | .reading | .sendingCached _ =>
      x.policy ≠ .networkOnly ∧ es = [.progress .scheduled, .progress .fetchCache]
  | .sendingMiss =>
      x.policy = .cacheOnly ∧ es = [.progress .scheduled, .progress .fetchCache]
  | .announcingFetch =>
      ∃ before, Lookup x.policy before ∧ es = .progress .scheduled :: before
  | .fetching | .storing _ | .notifying _ | .sendingFetched _ | .sendingFailure _ =>
      ∃ before, Lookup x.policy before ∧
        es = .progress .scheduled :: (before ++ [.progress .fetchNetwork])
  | .completing =>
      ∃ resolution, Resolution x.query x.policy resolution ∧
        es = .progress .scheduled :: resolution
  | .listening | .rereading | .sendingChange _ =>
      ∃ resolution changes, Resolution x.query x.policy resolution ∧
        (∀ event ∈ changes, ∃ data, event = .response data true) ∧
        es = .progress .scheduled :: (resolution ++ .progress .completed :: changes)
  | .stopped => ∃ script, Transcript x.query x.policy script ∧ es <+: script

theorem Lookup.resolve {query : Query} {policy : Policy} {before : List Event}
    (h : Lookup policy before) (fault : QueryFault) :
    Resolution query policy (before ++ [.progress .fetchNetwork, .failure fault]) :=
  .network h (.failure fault)

theorem Resolution.transcript {query : Query} {policy : Policy} {resolution : List Event}
    (h : Resolution query policy resolution) :
    Transcript query policy (.progress .scheduled :: (resolution ++ [.progress .completed])) :=
  .intro h (by simp)

theorem Resolution.exists_of_ne (query : Query) {policy : Policy} (hne : policy ≠ .networkOnly) :
    ∃ rest, Resolution query policy (.progress .fetchCache :: rest) := by
  cases policy with
  | cacheOnly => exact ⟨_, .cacheOnlyMiss⟩
  | networkOnly => exact absurd rfl hne
  | cacheFirst => exact ⟨_, .cacheFirstHit .null⟩
  | cacheAndNetwork => exact ⟨_, Lookup.cacheAndNetworkMiss.resolve (.remote "")⟩

theorem Resolution.exists (query : Query) (policy : Policy) :
    ∃ resolution, Resolution query policy resolution := by
  by_cases hpolicy : policy = .networkOnly
  · exact ⟨_, hpolicy ▸ Lookup.networkOnly.resolve (.remote "")⟩
  · obtain ⟨rest, h⟩ := exists_of_ne query hpolicy
    exact ⟨_, h⟩

/-- What has been sent in any phase can be continued to a script. -/
theorem Watch.HasSent.isPrefix {x : Watch} {es : List Event} (h : x.HasSent es) :
    ∃ script, Transcript x.query x.policy script ∧ es <+: script := by
  unfold HasSent at h
  cases hphase : x.phase <;> simp only [hphase] at h
  case created =>
      obtain ⟨resolution, hr⟩ := Resolution.exists x.query x.policy
      exact ⟨_, hr.transcript, h ▸ List.nil_prefix⟩
  case announcingRead | reading | sendingCached =>
      obtain ⟨hne, rfl⟩ := h
      obtain ⟨rest, hr⟩ := Resolution.exists_of_ne x.query hne
      exact ⟨_, hr.transcript, by simp [List.cons_prefix_cons]⟩
  case sendingMiss =>
      obtain ⟨hcacheOnly, rfl⟩ := h
      rw [hcacheOnly]
      exact ⟨_, Resolution.cacheOnlyMiss.transcript, by simp [List.cons_prefix_cons]⟩
  case announcingFetch =>
      obtain ⟨before, hbefore, rfl⟩ := h
      exact ⟨_, (hbefore.resolve (.remote "")).transcript, by simp [List.cons_prefix_cons]⟩
  case fetching | storing | notifying | sendingFetched | sendingFailure =>
      obtain ⟨before, hbefore, rfl⟩ := h
      exact ⟨_, (hbefore.resolve (.remote "")).transcript, by
        simp [List.cons_prefix_cons, List.prefix_append_right_inj]⟩
  case completing =>
      obtain ⟨resolution, hr, rfl⟩ := h
      exact ⟨_, hr.transcript, by simp [List.cons_prefix_cons]⟩
  case listening | rereading | sendingChange =>
      obtain ⟨resolution, changes, hr, hchanges, rfl⟩ := h
      exact ⟨_, .intro hr hchanges, List.prefix_refl _⟩
  case stopped => exact h

/-- Whatever a watch does, it sends what comes next in the script. -/
theorem Advance.hasSent {number : Nat} {x x' : Watch} {heard : Bool} {cache : Cache} {l : Label}
    {es : List Event} (h : Advance number x heard cache l x') (hsent : x.HasSent es) :
    x'.HasSent (es ++ (l.sentBy number).toList) := by
  have hprefix := hsent.isPrefix
  unfold Watch.HasSent at hsent
  cases h with
  | scheduled hphase =>
      simp only [hphase] at hsent
      subst hsent
      unfold Watch.HasSent
      cases hpolicy : x.policy <;>
        simp [Watch.goTo, Watch.begin, hpolicy, Label.sentBy, Lookup.networkOnly]
  | turnedToCache hphase =>
      simp only [hphase] at hsent
      obtain ⟨hne, rfl⟩ := hsent
      exact ⟨hne, by simp [Label.sentBy]⟩
  | hit hphase =>
      simp only [hphase] at hsent
      simpa [Watch.HasSent, Watch.goTo, Label.sentBy] using hsent
  | missed hphase =>
      simp only [hphase] at hsent
      obtain ⟨hne, rfl⟩ := hsent
      unfold Watch.HasSent
      cases hpolicy : x.policy <;>
        simp_all [Watch.goTo, Watch.afterRead, Label.sentBy]
      · exact .cacheFirst
      · exact .cacheAndNetworkMiss
  | @sentCached data hphase =>
      simp only [hphase] at hsent
      obtain ⟨hne, rfl⟩ := hsent
      unfold Watch.HasSent
      cases hpolicy : x.policy <;>
        simp_all [Watch.afterCached, Label.sentBy]
      · exact .cacheOnlyHit data
      · exact .cacheFirstHit data
      · exact .cacheAndNetworkHit data
  | sentMiss hphase =>
      simp only [hphase] at hsent
      obtain ⟨hcacheOnly, rfl⟩ := hsent
      refine ⟨_, ?_, by simp [Label.sentBy]; rfl⟩
      exact hcacheOnly ▸ Resolution.cacheOnlyMiss
  | called hphase =>
      simp only [hphase] at hsent
      obtain ⟨before, hbefore, rfl⟩ := hsent
      exact ⟨before, hbefore, by simp [Label.sentBy]⟩
  | succeeded hphase | failed hphase | stored hphase | storedEqual hphase
  | notified hphase =>
      simp only [hphase] at hsent
      simpa [Watch.HasSent, Watch.goTo, Label.sentBy] using hsent
  | @sentFetched data hphase =>
      simp only [hphase] at hsent
      obtain ⟨before, hbefore, rfl⟩ := hsent
      exact ⟨_, .network hbefore (.response data), by simp [Label.sentBy]⟩
  | @sentFailure fault hphase =>
      simp only [hphase] at hsent
      obtain ⟨before, hbefore, rfl⟩ := hsent
      exact ⟨_, .network hbefore (.failure fault), by simp [Label.sentBy]⟩
  | completed hphase =>
      simp only [hphase] at hsent
      obtain ⟨resolution, hr, rfl⟩ := hsent
      exact ⟨resolution, [], hr, by simp, by simp [Label.sentBy]⟩
  | noticed hphase | passedOver hphase | lost hphase | unchanged hphase | changed hphase =>
      simp only [hphase] at hsent
      simpa [Watch.HasSent, Watch.goTo, Label.sentBy] using hsent
  | @sentChange data hphase =>
      simp only [hphase] at hsent
      obtain ⟨resolution, changes, hr, hchanges, rfl⟩ := hsent
      refine ⟨resolution, changes ++ [.response data true], hr, ?_, by simp [Label.sentBy]⟩
      intro event hmem
      rcases List.mem_append.1 hmem with hmem | hmem
      · exact hchanges event hmem
      · exact ⟨data, by simpa using hmem⟩
  | ended hlabel hphase _ hrest =>
      have hnone : l.sentBy number = none := by
        rcases hlabel with rfl | ⟨_, rfl⟩ | rfl <;> rfl
      obtain ⟨hquery, hpolicy, -⟩ := hrest
      unfold Watch.HasSent
      simpa only [hphase, hnone, hquery, hpolicy, Option.toList_none, List.append_nil] using hprefix

end RepoWatch
