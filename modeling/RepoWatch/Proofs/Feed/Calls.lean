import RepoWatch.Proofs.Feed.Registry
import RepoWatch.Proofs.World.Deeds
/-!
# Calls that are not interrupted

The steps of a call of the feed, when nothing comes between them, are together what the hub does for
the whole call.
-/

namespace RepoWatch

section Calls

variable {w : World}

private theorem World.withHub_calling_none (hcall : w.call = none) (hub : Hub) :
    (w.withHub hub).calling none = w.withHub hub := by
  rw [World.calling, World.withHub, hcall]

/-- A call that has begun to switch off can go on until it returns. -/
theorem Run.switchingOff {numbers : List Nat} {ending : Ending}
    (hcall : w.call = some (.switchingOff numbers ending)) :
    ∃ t, Run w t
      ((w.withHub ((w.hub.cancelFollowers numbers).conclude ending)).calling none) := by
  induction numbers generalizing w with
  | nil => exact ⟨_, .snoc .nil (.conclude hcall)⟩
  | cons number numbers ih =>
      let next : World := (w.withHub (w.hub.cancelFollower number)).calling
        (some (.switchingOff numbers ending))
      have hnext : next.call = some (.switchingOff numbers ending) := rfl
      obtain ⟨t, run⟩ := ih hnext
      exact ⟨_, .cons (.switchOff hcall) run⟩

theorem Hub.registered?_attach (s : Hub) (query : Query) (number : Nat) :
    (s.attach query number).registered? = s.registered? := by
  unfold attach
  split <;> rfl

theorem Run.of_follow (hcall : w.call = none) (hdropped : w.hub.isDropped = false)
    (backend : Schedule.Backend) (query : Query) :
    ∃ t, Run w t
      (w.withHub (((w.hub.note (.fetching query)).openFor backend query).follow query)) := by
  let opened := (w.hub.note (.fetching query)).openFor backend query
  let attached := opened.attach query w.hub.nextNumber
  let previous := (attached.registered? query).toList
  let following : World := (w.withHub attached).calling (some (.registering query w.hub.nextNumber))
  let registered : World := (w.withHub (attached.register query w.hub.nextNumber)).calling
    (some (.switchingOff previous (.fetch query w.hub.nextNumber)))
  have first : Step w (.fetched query w.hub.nextNumber) following :=
    .fetch backend query hcall hdropped
  have hfollowing : following.call = some (.registering query w.hub.nextNumber) := rfl
  have second : Step following .silent registered := .register hfollowing
  have hregistered : registered.call =
      some (.switchingOff previous (.fetch query w.hub.nextNumber)) := rfl
  obtain ⟨t, rest⟩ := Run.switchingOff hregistered
  have hfollow : opened.follow query = registered.hub.cancelFollowers previous := by
    obtain ⟨p, hpipes, -⟩ := (w.hub.note (.fetching query)).openFor_eq backend query
    have hnumber : opened.pipes.length - 1 = w.hub.nextNumber := by
      rw [show opened.pipes = _ from hpipes, List.length_append]
      rfl
    have hprevious : previous = (opened.registered? query).toList := by
      rw [← Hub.registered?_attach opened query w.hub.nextNumber]
    rw [Hub.follow, hnumber, hprevious]
    rfl
  rw [← World.withHub_calling_none hcall, show (_ : Hub).follow query = _ from hfollow]
  exact ⟨_, .cons first (.cons second rest)⟩

theorem Run.of_cancel (hcall : w.call = none) (hdropped : w.hub.isDropped = false) :
    ∃ t, Run w t (w.withHub w.hub.cancel) := by
  let cleared : World := (w.withHub w.hub.clearRegistry).calling
    (some (.switchingOff (w.hub.registry.map Prod.snd) (.cancel w.hub.registry.length)))
  have hcleared : cleared.call =
      some (.switchingOff (w.hub.registry.map Prod.snd) (.cancel w.hub.registry.length)) := rfl
  obtain ⟨t, run⟩ := Run.switchingOff hcleared
  rw [← World.withHub_calling_none hcall]
  exact ⟨_, .cons (.cancel hcall hdropped) run⟩

theorem Run.of_drop (hcall : w.call = none) (hdropped : w.hub.isDropped = false) :
    ∃ t, Run w t (w.withHub w.hub.dropFeed) := by
  let cleared : World := (w.withHub w.hub.clearRegistry).calling
    (some (.switchingOff (w.hub.registry.map Prod.snd) .drop))
  have hcleared : cleared.call = some (.switchingOff (w.hub.registry.map Prod.snd) .drop) := rfl
  obtain ⟨t, run⟩ := Run.switchingOff hcleared
  rw [← World.withHub_calling_none hcall]
  exact ⟨_, .cons (.drop hcall hdropped) run⟩

end Calls
end RepoWatch
