import RepoWatch.Proofs.Channel.Multicast
import RepoWatch.Proofs.World.Basic
/-!
# The logs of the outlets

What is published is seen at the logs that the subscribers read: a value comes last in the log of
the outlet to which it belongs, and the other logs stay as they are.
-/

namespace RepoWatch

/-- The outlet at which a value is published. -/
def Publication.outlet : Publication → OutletKind
  | .repositories _ => .repositories
  | .detail _ => .detail
  | .commits _ => .commits
  | .failure _ => .failures

namespace Outlets

/-- The log of one of the outlets. -/
def logOf (o : Outlets) : OutletKind → Multicast Publication
  | .repositories => o.repositories.log.map .repositories
  | .detail => o.detail.log.map .detail
  | .commits => o.commits.log.map .commits
  | .failures => o.failures.log.map .failure

/-- What outlets become when values are published, in order: the log of each takes those that belong
to it, and no others. -/
def Takes (o : Outlets) (ps : List Publication) (o' : Outlets) : Prop :=
  ∀ kind, (o.logOf kind).Takes (ps.filter fun p => p.outlet = kind) (o'.logOf kind)

variable {o o' o'' : Outlets} {ps ps' : List Publication}

theorem SameLogs.refl (o : Outlets) : o.SameLogs o := ⟨rfl, rfl, rfl, rfl⟩

theorem SameLogs.trans (h : o.SameLogs o') (h' : o'.SameLogs o'') : o.SameLogs o'' :=
  ⟨h.1.trans h'.1, h.2.1.trans h'.2.1, h.2.2.1.trans h'.2.2.1, h.2.2.2.trans h'.2.2.2⟩

theorem sameLogs_clone (o : Outlets) (operation : Operation) :
    (o.clone operation).SameLogs o := by
  cases operation <;> exact ⟨rfl, rfl, rfl, rfl⟩

theorem sameLogs_dropHandle (o : Outlets) (operation : Operation) :
    (o.dropHandle operation).SameLogs o := by
  cases operation <;> exact ⟨rfl, rfl, rfl, rfl⟩

theorem SameLogs.logOf_eq (h : o'.SameLogs o) (kind : OutletKind) :
    o'.logOf kind = o.logOf kind := by
  obtain ⟨hrepositories, hdetail, hcommits, hfailures⟩ := h
  cases kind
  case repositories => exact congrArg (Multicast.map Publication.repositories) hrepositories
  case detail => exact congrArg (Multicast.map Publication.detail) hdetail
  case commits => exact congrArg (Multicast.map Publication.commits) hcommits
  case failures => exact congrArg (Multicast.map Publication.failure) hfailures

theorem SameLogs.takes (h : o'.SameLogs o) : o.Takes [] o' :=
  fun kind => Multicast.takes_nil_iff.2 (h.logOf_eq kind)

theorem Takes.refl (o : Outlets) : o.Takes [] o := (SameLogs.refl o).takes

theorem Takes.trans (h : o.Takes ps o') (h' : o'.Takes ps' o'') : o.Takes (ps ++ ps') o'' := by
  intro kind
  rw [List.filter_append]
  exact (h kind).trans (h' kind)

/-- An outlet to which none of the values belongs keeps its log. -/
theorem Takes.logOf_eq (h : o.Takes ps o') {kind : OutletKind}
    (hnone : ∀ p ∈ ps, p.outlet ≠ kind) : o'.logOf kind = o.logOf kind := by
  have hempty : (ps.filter fun p => p.outlet = kind) = [] := by simpa using hnone
  have htakes := h kind
  rw [hempty] at htakes
  exact Multicast.takes_nil_iff.1 htakes

/-- To publish a value is to send it to the outlet to which it belongs. -/
theorem takes_publish (o : Outlets) (p : Publication) : o.Takes [p] (o.publish p) := by
  intro kind
  cases p <;> cases kind <;>
    first
      | exact (Multicast.takes_send _ _).map _
      | exact .refl _

end Outlets
end RepoWatch
