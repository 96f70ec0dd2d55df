import RepoWatch.Proofs.Feed.Service
/-!
# What a watch reports of its request

A watch reports what came of its request, once, and nothing that did not come of it. When the request
has failed the watch stores nothing, and all that it reports is the failure.
-/

namespace RepoWatch

/-- Whether an event reports what came of a request, when it is sent by a watch that may make one. -/
def Event.isReport : Event → Bool
  | .response _ fromCache => !fromCache
  | .failure _ => true
  | .progress _ => false

/-- What a watch has reported of its request. -/
def Trace.reports (t : Trace) (number : Nat) : List Event :=
  (t.sent number).filter Event.isReport

/-- What a watch is about to report of its request. -/
def Watch.toReport (x : Watch) : Option Event :=
  match x.phase with
  | .storing data | .notifying data | .sendingFetched data => some (.response data false)
  | .sendingFailure fault => some (.failure fault)
  | _ => none

/-- The reports of a watch are what came of its request. -/
structure Watch.Reports (x : Watch) (number : Nat) (t : Trace) : Prop where
  begins : t.reports number <+: (t.answers number).map Event.ofOutcome
  going : x.phase ≠ .stopped →
    t.reports number ++ x.toReport.toList = (t.answers number).map Event.ofOutcome
  crashed : t.crashed number = true → x.phase = .stopped ∧ t.answers number = []

/-- The request of a watch has failed, and the watch reports the failure and nothing else. It stores
nothing, so that an entry is as it was unless somebody else has changed it. -/
structure Trace.Rejects (t : Trace) (number : Nat) (e : ErrorChain) (origin w : World) : Prop where
  answers_eq : t.answers number = [.error e]
  stored_eq : t.stored number = []
  untouched : ∀ query, t.OwnedBy number query origin → w.entry query = origin.entry query
  begins : t.reports number <+: [.failure e.toFault]
  told : w.hub.isReceived number = true → w.hub.stepWatch number = none →
    t.reports number = [.failure e.toFault]

section Reports

variable {number : Nat} {x x' : Watch} {heard : Bool} {cache : Cache} {l : Label} {t : Trace}
  {origin w w' : World} {query : Query} {policy : Policy}

@[simp] theorem Trace.reports_snoc (t : Trace) (number : Nat) (l : Label) (w : World) :
    reports (t ++ [⟨l, w⟩]) number =
      t.reports number ++ (l.sentBy number).toList.filter Event.isReport := by
  rw [reports, sent_snoc, List.filter_append]
  rfl

/-- A watch before its request has reported nothing of it. -/
theorem Lookup.not_report {before : List Event} (h : Lookup policy before) :
    before.filter Event.isReport = [] := by
  cases h <;> rfl

theorem Watch.HasSent.not_report {es : List Event} (h : x.HasSent es) (hphase : x.phase = .fetching) :
    es.filter Event.isReport = [] := by
  unfold HasSent at h
  simp only [hphase] at h
  obtain ⟨before, hbefore, rfl⟩ := h
  rw [List.filter_cons_of_neg (by decide), List.filter_append, hbefore.not_report]
  rfl

/-- What comes of the request is to be reported, and nothing else is. -/
theorem Advance.reports (h : Advance number x heard cache l x') (hmiss : x.phase ≠ .sendingMiss) :
    (x'.phase = .stopped ∧ l.sentBy number = none) ∨
      (l.sentBy number).toList.filter Event.isReport ++ x'.toReport.toList =
        x.toReport.toList ++ (l.answerTo number).toList.map Event.ofOutcome := by
  cases h with
  | ended hlabel hphase =>
      left
      rcases hlabel with rfl | ⟨_, rfl⟩ | rfl <;> exact ⟨hphase, rfl⟩
  | sentMiss hphase => exact absurd hphase hmiss
  | scheduled hphase | missed hphase | sentCached hphase =>
      right
      cases hpolicy : x.policy <;>
        simp [Watch.toReport, Watch.goTo, Watch.begin, Watch.afterRead, Watch.afterCached, hphase,
          Label.sentBy, Label.answerTo, Event.isReport]
  | turnedToCache hphase | hit hphase | called hphase | succeeded hphase
  | failed hphase | stored hphase | storedEqual hphase | notified hphase | sentFetched hphase
  | sentFailure hphase | completed hphase | noticed hphase | passedOver hphase | lost hphase
  | unchanged hphase | changed hphase | sentChange hphase =>
      right
      simp [Watch.toReport, Watch.goTo, hphase, Label.sentBy, Label.answerTo, Event.isReport,
        Event.ofOutcome]

theorem Step.isFetching_of_crashed (step : Step w (.crashed number) w')
    (hx : w.hub.watch? number = some x) : x.isFetching = true := by
  generalize hl : Label.crashed number = l at step
  cases step with
  | crash hy hfetching =>
      cases hl
      obtain rfl := Option.some.inj (hx.symm.trans hy)
      exact hfetching
  | @watch _ _ _ effect => cases effect <;> cases hl
  | follower =>
      unfold Hub.followerLabel at hl
      split at hl <;> cases hl
  | _ => cases hl

theorem Watch.Reports.others (h : x.Reports number t) (w' : World) (hl : l.isOf number = false) :
    x.Reports number (t ++ [⟨l, w'⟩]) := by
  have hanswers := t.answers_of_isOf w' hl
  have hsilent : l.crashes number = false := by
    cases l with
    | crashed n => simpa [Label.isOf, Label.crashes] using hl
    | _ => rfl
  have hcrashed : Trace.crashed (t ++ [⟨l, w'⟩]) number = t.crashed number := by
    rw [Trace.crashed_snoc, hsilent, Bool.or_false]
  have hreports : Trace.reports (t ++ [⟨l, w'⟩]) number = t.reports number := by
    rw [Trace.reports, t.sent_of_isOf w' hl]
    rfl
  constructor
  · rw [hreports, hanswers]
    exact h.begins
  · rw [hreports, hanswers]
    exact h.going
  · rw [hcrashed, hanswers]
    exact h.crashed

theorem Watch.Reports.own (h : x.Reports number t) (sent : x.HasSent (t.sent number))
    (hpolicy : x.policy ≠ .cacheOnly) (step : Step w l w') (hx : w.hub.watch? number = some x)
    (advance : Advance number x heard cache l x') : x'.Reports number (t ++ [⟨l, w'⟩]) := by
  have hgoing := h.going advance.not_stopped
  have hmiss : x.phase ≠ .sendingMiss := by
    intro hphase
    unfold HasSent at sent
    simp only [hphase] at sent
    exact hpolicy sent.1
  have hsplit : (Trace.answers (t ++ [⟨l, w'⟩]) number).map Event.ofOutcome =
      t.reports number ++ (x.toReport.toList ++
        (l.answerTo number).toList.map Event.ofOutcome) := by
    rw [Trace.answers_snoc, List.map_append, ← hgoing, List.append_assoc]
  refine ⟨?_, ?_, ?_⟩
  · rw [hsplit, Trace.reports_snoc]
    rcases advance.reports hmiss with ⟨-, hnone⟩ | heq
    · rw [hnone]
      exact (List.append_nil _).symm ▸ List.prefix_append _ _
    · rw [← heq, ← List.append_assoc]
      exact List.prefix_append _ _
  · intro hphase
    rcases advance.reports hmiss with ⟨hstopped, -⟩ | heq
    · exact absurd hstopped hphase
    · rw [hsplit, Trace.reports_snoc, List.append_assoc, heq]
  · intro hcrashed
    rw [Trace.crashed_snoc, Bool.or_eq_true] at hcrashed
    rcases hcrashed with hbefore | hnow
    · exact absurd (h.crashed hbefore).1 advance.not_stopped
    · -- a request that is under way has come to no outcome
      obtain rfl : l = .crashed number := by
        cases l with
        | crashed n => simpa [Label.crashes] using hnow
        | _ => cases hnow
      have hphase := Watch.isFetching_iff.1 (step.isFetching_of_crashed hx)
      have hnone : (t.answers number).map Event.ofOutcome = [] := by
        rw [← hgoing, Trace.reports, sent.not_report hphase, toReport, hphase]
        rfl
      constructor
      · cases advance with
        | ended _ hstopped => exact hstopped
      · rw [Trace.answers_snoc, List.map_eq_nil_iff.1 hnone]
        rfl

/-- A watch that stores nothing leaves an entry as it was, if nobody else changes it. -/
theorem Run.entry_eq_of_stored (run : Run origin t w) (hstored : t.stored number = [])
    (howned : t.OwnedBy number query origin) : w.entry query = origin.entry query := by
  induction run with
  | nil => rfl
  | @snoc t w w' l run step ih =>
      rw [Trace.stored_snoc, List.append_eq_nil_iff] at hstored
      obtain ⟨hpast, hentry⟩ := run.ownedBy_of_snoc howned
      rw [← ih hstored.1 hpast]
      rcases hentry with hown | hsame
      · apply step.entry_eq query
        · rintro rfl
          cases hown
        · cases l with
          | put writer q data changed =>
              cases writer with
              | none => cases hown
              | some n =>
                  have hn : n = number := by simpa [Label.isOf] using hown
                  simp [Label.storedBy, hn] at hstored
          | _ => rfl
      · exact hsame

/-- A watch that may ask the network reports what comes of its request. -/
theorem Run.reports (run : Run origin t w) (born : origin.Opened number query policy)
    (hpolicy : policy ≠ .cacheOnly) :
    ∃ x, w.hub.watch? number = some x ∧ x.Reports number t := by
  obtain ⟨x, hx, -, reports⟩ := run.life_induction (P := fun t _ x => x.Reports number t) born
    ⟨List.prefix_refl _, fun _ => rfl, fun h => by cases h⟩
    (fun _ reports _ _ hl => reports.others _ hl)
    (fun life reports step hx advance =>
      reports.own life.sent (life.policy_eq ▸ hpolicy) step hx advance)
  exact ⟨x, hx, reports⟩

/-- A watch whose request has failed rejects what came of it. -/
theorem Run.rejects {cache : Cache} {outlets : Outlets} {past : Trace} {e : ErrorChain}
    (before : Run (.start cache outlets) past origin) (born : origin.Opened number query policy)
    (run : Run origin t w) (he : .error e ∈ t.answers number) : t.Rejects number e origin w := by
  obtain ⟨x, hx, account⟩ := run.account before.held born
  have hcalls := account.calls_le_one
  have hle := account.answers_le
  have hlength : (t.answers number).length ≤ 1 := by
    simp only [Watch.create, Watch.isFetching, Bool.false_eq_true, if_false] at hle
    omega
  have hanswers : t.answers number = [.error e] := by
    obtain ⟨outcome, heq⟩ := List.length_eq_one_iff.1
      (Nat.le_antisymm hlength (List.length_pos_of_mem he))
    rw [heq] at he
    rw [heq, List.mem_singleton.1 he]
  have hstored := (account.stored_of_error rfl hlength he).1
  have hpolicy : policy ≠ .cacheOnly := by
    rintro rfl
    have hnone := account.calls_eq_zero rfl
    rw [hanswers] at hle
    simp only [Watch.create, Watch.isFetching, List.length_singleton, Bool.false_eq_true,
      if_false] at hle
    omega
  obtain ⟨y, hy, reports⟩ := run.reports born hpolicy
  obtain rfl := Option.some.inj (hx.symm.trans hy)
  have hbegins := reports.begins
  rw [hanswers] at hbegins
  refine ⟨hanswers, hstored, fun q howned => run.entry_eq_of_stored hstored howned, hbegins, ?_⟩
  · intro hreceived hwaits
    have hphase : x.phase ≠ .stopped := by
      intro hstopped
      rcases before.ended born run hx hstopped with hgone | ⟨hcrashed, -⟩
      · rw [hreceived] at hgone
        cases hgone
      · rw [(reports.crashed hcrashed).2] at hanswers
        cases hanswers
    have hgoing := reports.going hphase
    have hstep : x.step true w.hub.cache = none := by
      rw [← hreceived]
      exact Hub.step_eq_none hx hwaits
    have hnothing : x.toReport = none := by
      unfold Watch.toReport
      cases hp : x.phase <;> simp_all [Watch.step]
    rw [hnothing, hanswers, Option.toList_none, List.append_nil] at hgoing
    exact hgoing

end Reports
end RepoWatch
