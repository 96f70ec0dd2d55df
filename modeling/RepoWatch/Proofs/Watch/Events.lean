import RepoWatch.Watch.Event
import RepoWatch.Proofs.Json.Equality
/-!
# What the events of a watch tell

The data that was sent last, the responses that come after the resolution, and the requests of the
network that were announced.
-/

namespace RepoWatch

namespace Event

def data? : Event → Option Json
  | .response data _ => some data
  | .failure _ | .progress _ => none

def isResponse (e : Event) : Bool := e.data?.isSome

def isFailure : Event → Bool
  | .failure _ => true
  | .response .. | .progress _ => false

def isCompletion : Event → Bool
  | .progress .completed => true
  | _ => false

def isFetch : Event → Bool
  | .progress .fetchNetwork => true
  | _ => false

end Event

def lastData (es : List Event) : Option Json := (es.filterMap Event.data?).getLast?

def reemitted : List Event → List Event
  | [] => []
  | e :: es => if e.isCompletion then es.filter Event.isResponse else reemitted es

/-- No response after the resolution tells what the response before it has told. -/
def NoRepeats (es : List Event) : Prop :=
  ∀ before after data fromCache, es = before ++ .response data fromCache :: after →
    before.any Event.isCompletion = true →
      ∀ last, lastData before = some last → (last == data) = false

section Last

variable (es : List Event)

@[simp] theorem lastData_nil : lastData [] = none := rfl

theorem lastData_snoc (e : Event) : lastData (es ++ [e]) = e.data?.or (lastData es) := by
  cases h : e.data? <;> simp [lastData, h]

@[simp] theorem lastData_response (data : Json) (fromCache : Bool) :
    lastData (es ++ [.response data fromCache]) = some data := by
  rw [lastData_snoc]
  rfl

@[simp] theorem lastData_failure (fault : QueryFault) :
    lastData (es ++ [.failure fault]) = lastData es := by
  rw [lastData_snoc]
  rfl

@[simp] theorem lastData_progress (stage : Progress) :
    lastData (es ++ [.progress stage]) = lastData es := by
  rw [lastData_snoc]
  rfl

theorem lastData_eq_none_iff : lastData es = none ↔ es.any Event.isResponse = false := by
  simp [lastData, Event.isResponse]

end Last

section Reemitted

variable {es : List Event}

theorem reemitted_of_no_response (h : es.any Event.isResponse = false) : reemitted es = [] := by
  induction es with
  | nil => rfl
  | cons e es ih =>
      rw [List.any_cons, Bool.or_eq_false_iff] at h
      rw [reemitted, ih h.2]
      split
      · exact List.filter_eq_nil_iff.2 (by simpa using h.2)
      · rfl

theorem reemitted_snoc_of_not_completed (h : es.any Event.isCompletion = false) (e : Event) :
    reemitted (es ++ [e]) = [] := by
  induction es with
  | nil => cases hc : e.isCompletion <;> simp [reemitted, hc]
  | cons e' es ih =>
      rw [List.any_cons, Bool.or_eq_false_iff] at h
      rw [List.cons_append, reemitted, h.1]
      exact ih h.2

theorem reemitted_snoc (h : es.any Event.isCompletion = true) (e : Event) :
    reemitted (es ++ [e]) = reemitted es ++ [e].filter Event.isResponse := by
  induction es with
  | nil => cases h
  | cons e' es ih =>
      rw [List.cons_append, reemitted, reemitted]
      cases hc : e'.isCompletion with
      | true => exact List.filter_append _ _
      | false =>
          rw [List.any_cons, hc, Bool.false_or] at h
          exact ih h

end Reemitted

section NoRepeats

theorem noRepeats_nil : NoRepeats [] := by
  intro before after data fromCache h
  simp at h

/-- To go on without a repeat it is enough to look at the last response. -/
theorem NoRepeats.snoc {es : List Event} {e : Event} (h : NoRepeats es)
    (hlast : ∀ data, e.data? = some data → es.any Event.isCompletion = true →
      ∀ last, lastData es = some last → (last == data) = false) : NoRepeats (es ++ [e]) := by
  intro before after data fromCache heq hcompleted
  rcases List.eq_nil_or_concat after with rfl | ⟨after, e', rfl⟩
  · obtain ⟨rfl, he⟩ := List.append_inj' heq rfl
    obtain rfl : e = .response data fromCache := by simpa using he
    exact hlast data rfl hcompleted
  · have heq' : es ++ [e] = (before ++ .response data fromCache :: after) ++ [e'] := by
      simpa using heq
    obtain ⟨hes, -⟩ := List.append_inj' heq' rfl
    exact h before after data fromCache hes hcompleted

end NoRepeats
end RepoWatch
