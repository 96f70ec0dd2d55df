import RepoWatch.Cache
import RepoWatch.Proofs.Keyed
/-!
# Entries of the cache

What each operation does to the entry of a query.
-/

namespace RepoWatch.Cache

variable (c : Cache) (q : Query) (data : Json)

@[simp] theorem get?_retain : c.retain.get? q = c.get? q := rfl

@[simp] theorem get?_release : c.release.get? q = c.get? q := rfl

@[simp] theorem get?_announce (q' : Query) : (c.announce q').get? q = c.get? q := rfl

@[simp] theorem get?_clear : c.clear.get? q = none := rfl

@[simp] theorem changes_retain : c.retain.changes = c.changes := rfl

@[simp] theorem changes_release : c.release.changes = c.changes := rfl

@[simp] theorem changes_erase : (c.erase q).changes = c.changes := rfl

@[simp] theorem changes_clear : c.clear.changes = c.changes := rfl

@[simp] theorem changes_announce : (c.announce q).changes = c.changes.send q := rfl

@[simp] theorem changes_insert : (c.insert q data).changes = c.changes := by
  unfold insert
  split <;> rfl

@[simp] theorem holders_insert : (c.insert q data).holders = c.holders := by
  unfold insert
  split <;> rfl

@[simp] theorem get?_erase_self : (c.erase q).get? q = none :=
  Keyed.lookup_without_self c.entries q

theorem get?_erase_of_ne {q' : Query} (hne : q' ≠ q) : (c.erase q).get? q' = c.get? q' :=
  Keyed.lookup_without_of_ne c.entries hne

theorem get?_erase_eq_or (q' : Query) :
    (c.erase q').get? q = c.get? q ∨ (c.erase q').get? q = none := by
  by_cases h : q = q'
  · exact .inr (h ▸ c.get?_erase_self q)
  · exact .inl (c.get?_erase_of_ne q' h)

theorem holds_eq_true_iff :
    c.holds q data = true ↔ ∃ cached, c.get? q = some cached ∧ (cached == data) = true := by
  unfold holds
  cases c.get? q <;> simp

theorem insert_of_holds (h : c.holds q data = true) : c.insert q data = c := if_pos h

theorem get?_insert_self (h : c.holds q data = false) :
    (c.insert q data).get? q = some data := by
  unfold insert get?
  rw [if_neg (by simp [h])]
  simp

theorem get?_insert_of_ne {q' : Query} (hne : q' ≠ q) :
    (c.insert q data).get? q' = c.get? q' := by
  unfold insert
  split
  · rfl
  · rw [← c.get?_erase_of_ne q hne]
    have hq : (q' == q) = false := by simpa using hne
    simp [get?, List.lookup_cons, hq]

end RepoWatch.Cache
