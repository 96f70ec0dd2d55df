import RepoWatch.Proofs.Fetch.Course
import RepoWatch.Proofs.Time.Elapsed
/-!
# Chronicles

What is done for a plan, with the time at which each act begins. Times are nanoseconds since the
beginning of 1970, and one clock serves for all: a wait lasts at least as long as it should, and who
looks at the clock sees the time. Carrying out a plan in an environment leaves such a chronicle.
-/

namespace RepoWatch.Plan

variable {ι α : Type}

/-- An act, with the time at which it begins. -/
structure Entry (ι : Type) where
  time : Int
  act : Act ι

/-- An act may begin at one time and be over at another. -/
def Act.Lasts : Act ι → Int → Int → Prop
  | .waits span, start, stop => start + span.nanoseconds ≤ stop
  | .looks shown, start, stop =>
    shown.unixNanoseconds = start ∧ shown.inLeapSecond = false ∧ start ≤ stop
  | .asks _, start, stop | .hears _, start, stop | .notes _, start, stop => start ≤ stop

theorem Act.Lasts.le {act : Act ι} {start stop : Int} (h : act.Lasts start stop) :
    start ≤ stop := by
  cases act with
  | waits span =>
      have hwait : start + span.nanoseconds ≤ stop := h
      omega
  | looks shown => exact h.2.2
  | asks | hears | notes => exact h

/-- What is entered happens one after the other, between two times. -/
inductive Chronicle : Int → List (Entry ι) → Int → Prop where
  | nil {start stop : Int} (h : start ≤ stop) : Chronicle start [] stop
  | cons {start next stop : Int} {entry : Entry ι} {entries : List (Entry ι)}
      (hbegin : start ≤ entry.time) (hlasts : entry.act.Lasts entry.time next)
      (h : Chronicle next entries stop) : Chronicle start (entry :: entries) stop

namespace Chronicle

variable {start stop : Int} {entry : Entry ι} {entries later : List (Entry ι)}

theorem le (h : Chronicle start entries stop) : start ≤ stop := by
  induction h with
  | nil h => exact h
  | cons hbegin hlasts _ ih => exact Int.le_trans (Int.le_trans hbegin hlasts.le) ih

theorem le_time (h : Chronicle start entries stop) (hmem : entry ∈ entries) :
    start ≤ entry.time := by
  induction h with
  | nil => cases hmem
  | cons hbegin hlasts _ ih =>
      rcases List.mem_cons.1 hmem with rfl | hmem
      · exact hbegin
      · exact Int.le_trans (Int.le_trans hbegin hlasts.le) (ih hmem)

theorem drop (h : Chronicle start (entries ++ later) stop) :
    ∃ middle, start ≤ middle ∧ Chronicle middle later stop := by
  induction entries generalizing start with
  | nil => exact ⟨start, Int.le_refl _, h⟩
  | cons entry entries ih =>
      cases h with
      | cons hbegin hlasts h =>
          obtain ⟨middle, hle, hlater⟩ := ih h
          exact ⟨middle, Int.le_trans (Int.le_trans hbegin hlasts.le) hle, hlater⟩

end Chronicle

end RepoWatch.Plan

/-! ## Environments -/

namespace RepoWatch

variable {ι α : Type}

namespace Environment

/-- The time, in nanoseconds since the beginning of 1970. -/
def time (e : Environment ι) : Int := e.present.unixNanoseconds

theorem time_eq (e : Environment ι) :
    e.time = e.origin.unixNanoseconds + (e.clock * Span.perMillisecond : Nat) :=
  e.origin.unixNanoseconds_addMilliseconds e.clock

theorem time_atTime (e : Environment ι) (n : Nat) :
    (e.atTime (e.clock + n)).time = e.time + (n * Span.perMillisecond : Nat) := by
  rw [time_eq, time_eq]
  simp only [atTime, Nat.add_mul]
  omega

theorem time_le_atTime (e : Environment ι) (n : Nat) : e.time ≤ (e.atTime (e.clock + n)).time := by
  rw [time_atTime]
  omega

theorem timerMilliseconds_eq {span : Span} (hspan : span.seconds ≤ timerLimit) :
    timerMilliseconds span = span.millisecondsUp := by
  unfold timerMilliseconds
  split
  · omega
  · rfl

/-- A timer that can be set for a span does not ring before. -/
theorem time_add_le_atTime (e : Environment ι) {span : Span} (hspan : span.seconds ≤ timerLimit) :
    e.time + span.nanoseconds ≤ (e.atTime (e.clock + timerMilliseconds span)).time := by
  have hlong := span.le_millisecondsUp
  rw [time_atTime, timerMilliseconds_eq hspan]
  omega

end Environment

namespace Plan

/-- A wait for which a timer can be set, or no wait. -/
def Act.isTimed : Act ι → Bool
  | .waits span => span.seconds ≤ Environment.timerLimit
  | .asks _ | .hears _ | .looks _ | .notes _ => true

/-- What is done when a plan is carried out. -/
def entries : Plan ι α → Environment ι → List (Entry ι)
  | .done _, _ | .crash _, _ => []
  | .call query next, e =>
    let answer := e.nextAnswer
    let after := (e.recordCall query).atTime (e.clock + answer.delay)
    ⟨e.time, .asks query⟩ :: ⟨after.time, .hears (answer.content after.present)⟩
      :: (next (answer.content after.present)).entries after
  | .wait span next, e =>
    ⟨e.time, .waits span⟩
      :: (next ()).entries (e.atTime (e.clock + Environment.timerMilliseconds span))
  | .now next, e => ⟨e.time, .looks e.present⟩ :: (next e.present).entries e
  | .note n next, e => ⟨e.time, .notes n⟩ :: next.entries (e.recordNote n)

/-- Carrying out a plan takes a course of it to the end. -/
theorem course_entries (p : Plan ι α) (e : Environment ι) :
    p.Course ((p.entries e).map Entry.act) (some (p.run e).1) := by
  induction p generalizing e with
  | done a => exact .done a
  | crash reason => exact .crash reason
  | call query next ih => exact .call (ih _ _)
  | wait span next ih => exact .wait (ih _ _)
  | now next ih => exact .now (ih _ _)
  | note n next ih => exact .note (ih _)

/-- Carrying out a plan takes its time, if timers can be set for all waits. -/
theorem chronicle_entries (p : Plan ι α) (e : Environment ι)
    (htimed : ∀ entry ∈ p.entries e, entry.act.isTimed = true) :
    Chronicle e.time (p.entries e) (p.run e).2.time := by
  induction p generalizing e with
  | done | crash => exact .nil (Int.le_refl _)
  | call query next ih =>
      refine .cons (Int.le_refl _) (e.time_le_atTime _)
        (.cons (Int.le_refl _) (Int.le_refl _) (ih _ _ ?_))
      intro entry hmem
      exact htimed entry (.tail _ (.tail _ hmem))
  | wait span next ih =>
      have hspan : span.seconds ≤ Environment.timerLimit := of_decide_eq_true (htimed _ (.head _))
      refine .cons (Int.le_refl _) (e.time_add_le_atTime hspan) (ih _ _ ?_)
      intro entry hmem
      exact htimed entry (.tail _ hmem)
  | now next ih =>
      have hnow := e.origin.inLeapSecond_addMilliseconds e.clock
      refine .cons (Int.le_refl _) ⟨rfl, hnow, Int.le_refl _⟩ (ih _ _ ?_)
      intro entry hmem
      exact htimed entry (.tail _ hmem)
  | note n next ih =>
      refine .cons (Int.le_refl _) (Int.le_refl _) (ih (e.recordNote n) ?_)
      intro entry hmem
      exact htimed entry (.tail _ hmem)

end Plan
end RepoWatch
