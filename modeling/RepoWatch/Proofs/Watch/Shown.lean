import RepoWatch.Proofs.Watch.Life
import RepoWatch.Proofs.Cache.Entries
/-!
# What a watch shows and what the cache holds

A watch lacks the entry of its query when it shows other data, or none. As long as it does not look
at the cache it shows the same, and once it has looked it lacks nothing, so that it can come to lack
the entry only when somebody changes it.
-/

namespace RepoWatch

namespace Watch

/-- The data that a watch has shown last or is about to show. -/
def shown (x : Watch) : Option Json :=
  match x.phase with
  | .sendingCached data | .notifying data | .sendingFetched data | .sendingChange data => some data
  | _ => x.lastSent

/-- Whether an entry is there and is not what a watch shows. -/
def lacks (x : Watch) (entry : Option Json) : Bool :=
  match entry, x.shown with
  | some cached, some data => !(data == cached)
  | some _, none => true
  | none, _ => false

/-- Whether a watch has not turned to the cache yet and is going to. -/
def isBlind (x : Watch) : Bool :=
  match x.phase with
  | .created => x.policy != .networkOnly
  | .announcingRead | .reading => true
  | _ => false

/-- Whether a watch is going to see or to set the entry before it shows anything else. -/
def willLook (x : Watch) : Bool :=
  match x.phase with
  | .storing _ | .rereading => true
  | _ => x.isBlind

@[simp] theorem lacks_none (x : Watch) : x.lacks none = false := rfl

theorem lacks_congr {x x' : Watch} (h : x'.shown = x.shown) (entry : Option Json) :
    x'.lacks entry = x.lacks entry := by
  unfold lacks
  rw [h]

theorem lacks_some_eq_false_iff {x : Watch} {cached : Json} :
    x.lacks (some cached) = false ↔ ∃ data, x.shown = some data ∧ (data == cached) = true := by
  unfold lacks
  cases x.shown <;> simp

theorem willLook_of_isBlind {x : Watch} (h : x.isBlind = true) : x.willLook = true := by
  unfold willLook
  split <;> first | rfl | exact h

end Watch

section Advance

variable {number : Nat} {x x' : Watch} {heard : Bool} {cache : Cache} {l : Label}

/-- A watch that does not look at the cache shows what it showed, and stores nothing. -/
theorem Advance.shown_eq (h : Advance number x heard cache l x') (hlook : x.willLook = false)
    (hphase : x'.phase ≠ .stopped) :
    x'.shown = x.shown ∧ l.changes x.query = false := by
  cases h with
  | scheduled hx | missed hx | sentCached hx =>
      cases hpolicy : x.policy <;>
        simp_all [Watch.willLook, Watch.isBlind, Watch.shown, Watch.goTo, Watch.begin,
          Watch.afterCached, Label.changes]
  | ended _ hstopped => exact absurd hstopped hphase
  | _ => simp_all [Watch.willLook, Watch.isBlind, Watch.shown, Watch.goTo, Label.changes]

/-- A watch that was going to look at the cache and still is has not turned to it yet. -/
theorem Advance.isBlind_of_willLook (h : Advance number x heard cache l x')
    (hlook : x.willLook = true) (hlook' : x'.willLook = true) : x'.isBlind = true := by
  cases h with
  | scheduled hx | missed hx | sentCached hx =>
      cases hpolicy : x.policy <;>
        simp_all [Watch.willLook, Watch.isBlind, Watch.goTo, Watch.begin, Watch.afterRead]
  | ended _ hstopped => simp [Watch.willLook, Watch.isBlind, hstopped] at hlook'
  | _ => simp_all [Watch.willLook, Watch.isBlind, Watch.goTo]

/-- A watch that has looked at the cache shows what it found, or what it has stored. -/
theorem Advance.lacks_eq_false (h : Advance number x heard cache l x') (hlook : x.willLook = true)
    (hlook' : x'.willLook = false) (hphase : x'.phase ≠ .stopped) :
    (l.changes x.query = false ∧ x'.lacks (cache.get? x.query) = false) ∨
      ∃ data, l = .put (some number) x.query data true ∧ x'.shown = some data := by
  cases h with
  | hit _ hget | changed _ hget =>
      rw [hget]
      exact .inl ⟨rfl, Watch.lacks_some_eq_false_iff.2 ⟨_, rfl, BEq.rfl⟩⟩
  | missed _ hget =>
      rw [hget]
      exact .inl ⟨rfl, rfl⟩
  | stored => exact .inr ⟨_, rfl, rfl⟩
  | @storedEqual data _ hholds =>
      obtain ⟨cached, hget, heq⟩ := (cache.holds_eq_true_iff _ _).1 hholds
      rw [hget]
      refine .inl ⟨rfl, Watch.lacks_some_eq_false_iff.2 ⟨data, rfl, ?_⟩⟩
      rw [Json.beq_swap, heq]
  | unchanged hx hget =>
      refine .inl ⟨rfl, ?_⟩
      cases hentry : cache.get? x.query with
      | none => rfl
      | some cached =>
          have hrepeats := hget cached hentry
          unfold Watch.repeats at hrepeats
          cases hlast : x.lastSent with
          | none => simp [hlast] at hrepeats
          | some last =>
              refine Watch.lacks_some_eq_false_iff.2 ⟨last, ?_, by simpa [hlast] using hrepeats⟩
              simp [Watch.shown, Watch.goTo, hlast]
  | scheduled hx =>
      cases hpolicy : x.policy <;>
        simp_all [Watch.willLook, Watch.isBlind, Watch.goTo, Watch.begin]
  | ended _ hstopped => exact absurd hstopped hphase
  | _ => simp_all [Watch.willLook, Watch.isBlind, Watch.goTo]

variable {w w' : World} {query : Query}

/-- Who lacks an entry lacked it before, unless it has changed. -/
theorem Step.lacks_of (step : Step w l w') (hl : l.changes query = false)
    (h : x.lacks (w'.entry query) = true) : x.lacks (w.entry query) = true := by
  rcases step.entry_cases query with ⟨-, hsame | ⟨-, hnone⟩⟩ | ⟨writer, data, rfl, -⟩
  · rwa [hsame] at h
  · rw [hnone] at h
    cases h
  · simp [Label.changes] at hl

theorem Step.lacks_eq_false (step : Step w l w')
    (h : Advance number x (w.hub.isReceived number) w.hub.cache l x') (hlook : x.willLook = true)
    (hlook' : x'.willLook = false) (hphase : x'.phase ≠ .stopped) :
    x'.lacks (w'.entry x.query) = false := by
  rcases h.lacks_eq_false hlook hlook' hphase with ⟨hl, hfound⟩ | ⟨data, rfl, hshown⟩
  · rw [Bool.eq_false_iff]
    intro hlacks
    exact Bool.eq_false_iff.1 hfound (step.lacks_of hl hlacks)
  · rw [step.entry_of_put]
    exact Watch.lacks_some_eq_false_iff.2 ⟨data, hshown, BEq.rfl⟩

end Advance
end RepoWatch
