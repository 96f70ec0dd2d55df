import RepoWatch.Fetch.Environment
/-!
# Courses of plans

What a plan may come to do, whatever it is answered and whatever the clock shows. A course may stop
anywhere, so that it also tells of a call that is never answered. Carrying out a plan in an
environment takes one of its courses to the end.
-/

namespace RepoWatch.Plan

variable {ι α β : Type}

/-- What is done for a plan, told when it begins, and what the plan is answered. -/
inductive Act (ι : Type) where
  | asks (query : Query)
  | hears (answer : ι)
  | waits (span : Span)
  | looks (time : Instant)
  | notes (note : Note)

/-- What is done for a plan up to some moment, and the outcome if there is one by then. -/
inductive Course : Plan ι α → List (Act ι) → Option (Outcome α) → Prop where
  | done (a : α) : Course (.done a) [] (some (.finished a))
  | crash (reason : String) : Course (.crash reason) [] (some (.crashed reason))
  | underWay (p : Plan ι α) : Course p [] none
  | unanswered (query : Query) (next : ι → Plan ι α) :
      Course (.call query next) [.asks query] none
  | call {query : Query} {answer : ι} {next : ι → Plan ι α} {acts : List (Act ι)}
      {ending : Option (Outcome α)} (h : Course (next answer) acts ending) :
      Course (.call query next) (.asks query :: .hears answer :: acts) ending
  | wait {span : Span} {next : Unit → Plan ι α} {acts : List (Act ι)}
      {ending : Option (Outcome α)} (h : Course (next ()) acts ending) :
      Course (.wait span next) (.waits span :: acts) ending
  | now {time : Instant} {next : Instant → Plan ι α} {acts : List (Act ι)}
      {ending : Option (Outcome α)} (h : Course (next time) acts ending) :
      Course (.now next) (.looks time :: acts) ending
  | note {n : Note} {next : Plan ι α} {acts : List (Act ι)} {ending : Option (Outcome α)}
      (h : Course next acts ending) : Course (.note n next) (.notes n :: acts) ending

section Courses

variable {acts : List (Act ι)} {ending : Option (Outcome α)}

/-- What is done up to the end is done before the outcome is there. -/
theorem Course.cut {p : Plan ι α} (h : p.Course acts ending) : p.Course acts none := by
  induction h with
  | done | crash | underWay => exact .underWay _
  | unanswered => exact .unanswered _ _
  | call _ ih => exact .call ih
  | wait _ ih => exact .wait ih
  | now _ ih => exact .now ih
  | note _ ih => exact .note ih

@[simp] theorem course_done_iff {a : α} :
    (done a).Course acts ending ↔ acts = [] ∧ ∀ o ∈ ending, o = .finished a := by
  constructor
  · rintro (_ | _) <;> simp
  · rintro ⟨rfl, h⟩
    cases ending with
    | none => exact .underWay _
    | some o =>
        obtain rfl := h o rfl
        exact .done a

@[simp] theorem course_crash_iff {reason : String} :
    (crash reason).Course acts ending ↔ acts = [] ∧ ∀ o ∈ ending, o = .crashed reason := by
  constructor
  · rintro (_ | _) <;> simp
  · rintro ⟨rfl, h⟩
    cases ending with
    | none => exact .underWay _
    | some o =>
        obtain rfl := h o rfl
        exact .crash reason

@[simp] theorem course_wait_iff {span : Span} {next : Unit → Plan ι α} :
    (wait span next).Course acts ending ↔
      (acts = [] ∧ ending = none) ∨
        ∃ later, acts = .waits span :: later ∧ (next ()).Course later ending := by
  constructor
  · intro h
    cases h with
    | underWay => exact .inl ⟨rfl, rfl⟩
    | wait h => exact .inr ⟨_, rfl, h⟩
  · rintro (⟨rfl, rfl⟩ | ⟨later, rfl, h⟩)
    · exact .underWay _
    · exact .wait h

@[simp] theorem course_now_iff {next : Instant → Plan ι α} :
    (now next).Course acts ending ↔
      (acts = [] ∧ ending = none) ∨
        ∃ time later, acts = .looks time :: later ∧ (next time).Course later ending := by
  constructor
  · intro h
    cases h with
    | underWay => exact .inl ⟨rfl, rfl⟩
    | now h => exact .inr ⟨_, _, rfl, h⟩
  · rintro (⟨rfl, rfl⟩ | ⟨time, later, rfl, h⟩)
    · exact .underWay _
    · exact .now h

@[simp] theorem course_note_iff {n : Note} {next : Plan ι α} :
    (note n next).Course acts ending ↔
      (acts = [] ∧ ending = none) ∨
        ∃ later, acts = .notes n :: later ∧ next.Course later ending := by
  constructor
  · intro h
    cases h with
    | underWay => exact .inl ⟨rfl, rfl⟩
    | note h => exact .inr ⟨_, rfl, h⟩
  · rintro (⟨rfl, rfl⟩ | ⟨later, rfl, h⟩)
    · exact .underWay _
    · exact .note h

end Courses

/-! ## A plan and what follows it -/

section Bind

variable {p : Plan ι α} {f : α → Plan ι β} {acts before after : List (Act ι)}
  {ending : Option (Outcome β)}

theorem Course.bind_underWay (h : p.Course acts none) : (p.bind f).Course acts none := by
  generalize hopen : (none : Option (Outcome α)) = o at h
  induction h with
  | done | crash => cases hopen
  | underWay => exact .underWay _
  | unanswered => exact .unanswered _ _
  | call _ ih => exact .call (ih hopen)
  | wait _ ih => exact .wait (ih hopen)
  | now _ ih => exact .now (ih hopen)
  | note _ ih => exact .note (ih hopen)

theorem Course.bind_crashed {reason : String} (h : p.Course acts (some (.crashed reason))) :
    (p.bind f).Course acts (some (.crashed reason)) := by
  generalize hcrash : some (Outcome.crashed reason : Outcome α) = o at h
  induction h with
  | done | underWay | unanswered => cases hcrash
  | crash =>
      cases hcrash
      exact .crash _
  | call _ ih => exact .call (ih hcrash)
  | wait _ ih => exact .wait (ih hcrash)
  | now _ ih => exact .now (ih hcrash)
  | note _ ih => exact .note (ih hcrash)

theorem Course.bind_finished {a : α} (h : p.Course before (some (.finished a)))
    (hf : (f a).Course after ending) : (p.bind f).Course (before ++ after) ending := by
  generalize hfinish : some (Outcome.finished a) = o at h
  induction h with
  | crash | underWay | unanswered => cases hfinish
  | done =>
      cases hfinish
      exact hf
  | call _ ih => exact .call (ih hfinish)
  | wait _ ih => exact .wait (ih hfinish)
  | now _ ih => exact .now (ih hfinish)
  | note _ ih => exact .note (ih hfinish)

/-- The courses of a plan that goes on with another one. -/
inductive BindCourse (p : Plan ι α) (f : α → Plan ι β) :
    List (Act ι) → Option (Outcome β) → Prop where
  | underWay {acts : List (Act ι)} (h : p.Course acts none) : BindCourse p f acts none
  | crashed {acts : List (Act ι)} {reason : String} (h : p.Course acts (some (.crashed reason))) :
      BindCourse p f acts (some (.crashed reason))
  | finished {before after : List (Act ι)} {a : α} {ending : Option (Outcome β)}
      (h : p.Course before (some (.finished a))) (hf : (f a).Course after ending) :
      BindCourse p f (before ++ after) ending

/-- What is done first comes before what is done for the rest. -/
theorem BindCourse.precede {rest : Plan ι α} (first : List (Act ι))
    (hfirst : ∀ {acts o}, rest.Course acts o → p.Course (first ++ acts) o)
    (h : BindCourse rest f acts ending) : BindCourse p f (first ++ acts) ending := by
  cases h with
  | underWay h => exact .underWay (hfirst h)
  | crashed h => exact .crashed (hfirst h)
  | finished h hf =>
      rw [← List.append_assoc]
      exact .finished (hfirst h) hf

theorem course_bind (h : (p.bind f).Course acts ending) : BindCourse p f acts ending := by
  induction p generalizing acts with
  | done a => exact .finished (.done a) h
  | crash reason =>
      cases h with
      | crash => exact .crashed (.crash reason)
      | underWay => exact .underWay (.underWay _)
  | call query next ih =>
      cases h with
      | underWay => exact .underWay (.underWay _)
      | unanswered => exact .underWay (.unanswered query next)
      | @call _ answer _ _ _ h => exact (ih _ h).precede [.asks query, .hears answer] .call
  | wait span next ih =>
      cases h with
      | underWay => exact .underWay (.underWay _)
      | wait h => exact (ih _ h).precede [.waits span] .wait
  | now next ih =>
      cases h with
      | underWay => exact .underWay (.underWay _)
      | @now time _ _ _ h => exact (ih _ h).precede [.looks time] .now
  | note n next ih =>
      cases h with
      | underWay => exact .underWay (.underWay _)
      | note h => exact (ih h).precede [.notes n] .note

end Bind
end RepoWatch.Plan
