import RepoWatch.Proofs.Watch.Shown
import RepoWatch.Proofs.World.Deeds
/-!
# What later responses answer to

Every response after the resolution is paid by a change of the entry, which somebody announces while
the watch is there, or is about to. One case is left out: a watch that asked only the network, in
vain, has shown nothing. If it loses changes, of whatever queries, it looks at the cache and sends
the entry that was there all along.
-/

namespace RepoWatch

namespace Watch

/-- Whether a watch has to send the entry that it lacks. One that has not turned to the cache yet
sends the entry as part of the resolution. -/
def owes (x : Watch) (entry : Option Json) : Bool := !x.isStopped && !x.isBlind && x.lacks entry

/-- Whether a watch is about to send a change. -/
def debt (x : Watch) : Nat :=
  match x.phase with
  | .sendingChange _ => 1
  | _ => 0

/-- The responses after the resolution, with those that are still to come. -/
def cost (x : Watch) (es : List Event) (entry : Option Json) : Nat :=
  (reemitted es).length + x.debt + (x.owes entry).toNat

theorem owes_eq_true_iff {x : Watch} {entry : Option Json} :
    x.owes entry = true ↔ x.phase ≠ .stopped ∧ x.isBlind = false ∧ x.lacks entry = true := by
  unfold owes
  rw [Bool.and_eq_true, Bool.and_eq_true, Bool.not_eq_true', Bool.not_eq_true', Bool.eq_false_iff,
    Ne, isStopped_iff, and_assoc]

theorem debt_cases (x : Watch) :
    x.debt = 0 ∨ (x.debt = 1 ∧ ∃ data, x.phase = .sendingChange data) := by
  unfold debt
  split
  · rename_i data hphase
    exact .inr ⟨rfl, data, hphase⟩
  · exact .inl rfl

theorem lacks_of_repeats {x : Watch} {data : Json} (hphase : x.phase = .rereading)
    (h : x.repeats data = false) : x.lacks (some data) = true := by
  unfold repeats at h
  unfold lacks shown
  cases hlast : x.lastSent <;> simp_all

end Watch

section Cost

variable {number : Nat} {x x' : Watch} {heard : Bool} {cache : Cache} {l : Label} {w w' : World}
  {es : List Event}

/-- A watch sends after the resolution only what it was about to send. -/
theorem Advance.reemitted_le (h : Advance number x heard cache l x') (hsent : x.HasSent es) :
    (reemitted (es ++ (l.sentBy number).toList)).length ≤ (reemitted es).length + x.debt := by
  have hany := hsent.any_isCompletion h.not_stopped
  cases hresolved : x.isResolved with
  | false =>
      rw [hresolved] at hany
      cases hl : l.sentBy number with
      | none => simp
      | some event => simp [reemitted_snoc_of_not_completed hany]
  | true =>
      rw [hresolved] at hany
      cases h with
      | sentChange hphase =>
          simp only [Label.sentBy, if_true, Option.toList_some, reemitted_snoc hany,
            List.length_append, Watch.debt, hphase]
          exact Nat.add_le_add_left (List.length_filter_le _ [_]) _
      | ended hlabel =>
          have hnone : l.sentBy number = none := by
            rcases hlabel with rfl | ⟨_, rfl⟩ | rfl <;> rfl
          simp [hnone]
      | noticed | passedOver | lost | unchanged | changed => simp [Label.sentBy]
      | _ => simp_all [Watch.isResolved]

/-- A watch that was going to look at the cache owes nothing after that. -/
theorem Step.owes_eq_false (step : Step w l w')
    (h : Advance number x (w.hub.isReceived number) w.hub.cache l x')
    (hlooked : x.willLook = true) : x'.owes (w'.entry x.query) = false := by
  rw [Bool.eq_false_iff]
  intro howes
  obtain ⟨hphase, hblind, hlacks⟩ := Watch.owes_eq_true_iff.1 howes
  cases hlook : x'.willLook with
  | true =>
      rw [h.isBlind_of_willLook hlooked hlook] at hblind
      cases hblind
  | false =>
      rw [step.lacks_eq_false h hlooked hlook hphase] at hlacks
      cases hlacks

/-- A watch comes to owe nothing by what it does, and pays what it owes by what it is about to
send. -/
theorem Step.owes_own (step : Step w l w')
    (h : Advance number x (w.hub.isReceived number) w.hub.cache l x') :
    x'.debt + (x'.owes (w'.entry x.query)).toNat ≤ (x.owes (w.entry x.query)).toNat := by
  rcases x'.debt_cases with hdebt | ⟨hdebt, data, hphase⟩
  · cases howes : x'.owes (w'.entry x.query) with
    | false => simp [hdebt]
    | true =>
        have hlooked : x.willLook = false := by
          rw [Bool.eq_false_iff]
          intro hlooked
          rw [step.owes_eq_false h hlooked] at howes
          cases howes
        obtain ⟨hphase, -, hlacks⟩ := Watch.owes_eq_true_iff.1 howes
        obtain ⟨hshown, hl⟩ := h.shown_eq hlooked hphase
        rw [Watch.lacks_congr hshown] at hlacks
        have hblind : x.isBlind = false := by
          rw [Bool.eq_false_iff]
          intro hblind
          rw [Watch.willLook_of_isBlind hblind] at hlooked
          cases hlooked
        have howed := Watch.owes_eq_true_iff.2 ⟨h.not_stopped, hblind, step.lacks_of hl hlacks⟩
        rw [hdebt, howed]
        exact Nat.le_refl _
  · obtain ⟨hrereading, hget, hnew, -⟩ := h.of_sendingChange hphase
    have howed : x.owes (w.entry x.query) = true := by
      have hlacks := Watch.lacks_of_repeats hrereading hnew
      rw [← hget] at hlacks
      refine Watch.owes_eq_true_iff.2 ⟨h.not_stopped, ?_, hlacks⟩
      simp [Watch.isBlind, hrereading]
    have hpaid := step.owes_eq_false h (by simp [Watch.willLook, hrereading])
    rw [hdebt, howed, hpaid]
    exact Nat.le_refl _

theorem Step.cost_own (step : Step w l w')
    (h : Advance number x (w.hub.isReceived number) w.hub.cache l x') (hsent : x.HasSent es) :
    x'.cost (es ++ (l.sentBy number).toList) (w'.entry x.query) ≤ x.cost es (w.entry x.query) := by
  have hreemitted := h.reemitted_le hsent
  have howes := step.owes_own h
  unfold Watch.cost
  omega

/-- Others do not add to what a watch sends or owes, but by changing its entry. -/
theorem Step.cost_others (step : Step w l w') (x : Watch) (es : List Event) (query : Query) :
    x.cost es (w'.entry query) ≤
      x.cost es (w.entry query) + if l.changes query then 1 else 0 := by
  unfold Watch.cost
  have hone := (x.owes (w'.entry query)).toNat_le
  cases hl : l.changes query with
  | true =>
      rw [if_pos rfl]
      omega
  | false =>
      cases howes : x.owes (w'.entry query) with
      | false => simp
      | true =>
          obtain ⟨hphase, hblind, hlacks⟩ := Watch.owes_eq_true_iff.1 howes
          have howed := Watch.owes_eq_true_iff.2 ⟨hphase, hblind, step.lacks_of hl hlacks⟩
          rw [howed]
          exact Nat.le_refl _

end Cost

section Account

variable {origin w w' : World} {t : Trace} {number : Nat} {query : Query} {policy : Policy}
  {x x' : Watch} {l : Label}

/-- The changes that answer for responses: those announced since, and those in flight. -/
def World.answering (w : World) (t : Trace) (query : Query) : Nat :=
  t.announced query + w.inFlight query

/-- A watch that asks only the network, over an entry, and has shown nothing. -/
structure Watch.IsUntouched (origin : World) (query : Query) (x : Watch) : Prop where
  policy_eq : x.policy = .networkOnly
  stored : (origin.entry query).isSome = true
  shown_eq : x.shown = none
  goes : x.phase ≠ .stopped
  phase_ne : x.phase ≠ .rereading

/-- A watch asked only the network, in vain, over an entry, and changes were lost. -/
structure World.Overflowed (origin : World) (number : Nat) (query : Query) (policy : Policy)
    (t : Trace) : Prop where
  policy_eq : policy = .networkOnly
  stored : (origin.entry query).isSome = true
  failed : (t.sent number).any Event.isFailure = true
  lost : origin.log.capacity < t.announcements

/-- What a watch sends and owes is paid by changes, unless changes were lost after a failure. -/
def Watch.Accounted (origin : World) (number : Nat) (query : Query) (policy : Policy)
    (t : Trace) (w : World) (x : Watch) : Prop :=
  x.cost (t.sent number) (w.entry query) ≤ w.answering t query ∨
    x.IsUntouched origin query ∨
      (origin.Overflowed number query policy t ∧
        x.cost (t.sent number) (w.entry query) ≤ w.answering t query + 1)

theorem Step.answering_eq (step : Step w l w') (t : Trace) (query : Query) :
    w'.answering (t ++ [⟨l, w'⟩]) query =
      w.answering t query + if l.changes query then 1 else 0 := by
  have haccount := step.inFlight_eq query
  unfold World.answering
  rw [Trace.announced_snoc]
  omega

theorem World.Overflowed.snoc (h : origin.Overflowed number query policy t) (m : Moment) :
    origin.Overflowed number query policy (t ++ [m]) where
  policy_eq := h.policy_eq
  stored := h.stored
  failed := by
    rw [Trace.sent_snoc, List.any_append, h.failed]
    rfl
  lost := by
    have := h.lost
    rw [Trace.announcements_snoc]
    omega

/-- A watch that has shown nothing has sent no response, and is not about to. -/
theorem Watch.IsUntouched.reemitted_eq (h : x.IsUntouched origin query)
    (life : x.Life origin number query policy t w) :
    reemitted (t.sent number) = [] ∧ x.debt = 0 := by
  have hshown := h.shown_eq
  unfold Watch.shown at hshown
  have hlast := life.last h.goes
  constructor
  · apply reemitted_of_no_response
    rw [← lastData_eq_none_iff, hlast]
    split at hshown <;> first | exact hshown | cases hshown
  · unfold Watch.debt
    split
    · rename_i hphase
      simp [hphase] at hshown
    · rfl

theorem Watch.Accounted.others (h : x.Accounted origin number query policy t w)
    (step : Step w l w') (hl : l.isOf number = false) :
    x.Accounted origin number query policy (t ++ [⟨l, w'⟩]) w' := by
  have hcost := step.cost_others x (t.sent number) query
  unfold Watch.Accounted at h ⊢
  rw [t.sent_of_isOf w' hl, step.answering_eq]
  rcases h with hpaid | huntouched | ⟨hover, hpaid⟩
  · exact .inl (by omega)
  · exact .inr (.inl huntouched)
  · exact .inr (.inr ⟨hover.snoc _, by omega⟩)

/-- A watch looks at the cache again when its query was announced, or when changes were lost. -/
theorem Advance.of_rereading {heard : Bool} {cache : Cache}
    (h : Advance number x heard cache l x') (hphase : x'.phase = .rereading) :
    x.phase = .listening ∧
      (x.query ∈ cache.changes.ahead x.position ∨ x.position < cache.changes.oldest) := by
  cases h with
  | noticed hx hnext =>
      refine ⟨hx, .inl ?_⟩
      rcases cache.changes.receive_cases x.position with ⟨-, hr⟩ | ⟨a, -, hr, -, hahead⟩ |
        ⟨-, hr, -⟩ <;> rw [hnext, Prod.mk.injEq] at hr
      · cases hr.1
      · obtain rfl : x.query = a := by simpa using hr.1
        rw [hahead]
        exact List.mem_cons_self
      · cases hr.1
  | lost hx hlag => exact ⟨hx, .inr hlag⟩
  | scheduled => cases hpolicy : x.policy <;> simp [Watch.goTo, Watch.begin, hpolicy] at hphase
  | missed =>
      cases hpolicy : x.policy <;> simp [Watch.goTo, Watch.afterRead, hpolicy] at hphase
  | sentCached => cases hpolicy : x.policy <;> simp [Watch.afterCached, hpolicy] at hphase
  | ended _ hstopped =>
      rw [hstopped] at hphase
      cases hphase
  | _ => simp [Watch.goTo] at hphase

/-- By what it does, a watch that has shown nothing comes to owe the entry at most. -/
theorem Watch.IsUntouched.cost_le_one (h : x.IsUntouched origin query)
    (life : x.Life origin number query policy t w) (step : Step w l w')
    (advance : Advance number x (w.hub.isReceived number) w.hub.cache l x') :
    x'.cost (Trace.sent (t ++ [⟨l, w'⟩]) number) (w'.entry query) ≤ 1 := by
  obtain ⟨hnone, hdebt⟩ := h.reemitted_eq life
  have hcost := step.cost_own advance life.sent
  have hone := (x.owes (w.entry query)).toNat_le
  rw [life.query_eq, Watch.cost, Watch.cost, hnone, hdebt, List.length_nil] at hcost
  rw [Trace.sent_snoc, Watch.cost]
  omega

/-- A watch that had nothing to show and was going to look, or ends, owes nothing. -/
theorem Watch.IsUntouched.cost_eq_zero (h : x.IsUntouched origin query)
    (life : x.Life origin number query policy t w) (step : Step w l w')
    (advance : Advance number x (w.hub.isReceived number) w.hub.cache l x')
    (hwhy : x.willLook = true ∨ x'.phase = .stopped) :
    x'.cost (Trace.sent (t ++ [⟨l, w'⟩]) number) (w'.entry query) = 0 := by
  obtain ⟨hnone, hdebt⟩ := h.reemitted_eq life
  have hsent := advance.reemitted_le life.sent
  rw [hnone, hdebt, List.length_nil] at hsent
  have howes : x'.owes (w'.entry query) = false := by
    rcases hwhy with hlooked | hstopped
    · rw [← life.query_eq]
      exact step.owes_eq_false advance hlooked
    · simp [Watch.owes, Watch.isStopped_iff.2 hstopped]
  have hdebt' : x'.debt = 0 := by
    rcases x'.debt_cases with hzero | ⟨-, data, hphase⟩
    · exact hzero
    · exact absurd (advance.of_sendingChange hphase).1 h.phase_ne
  rw [Trace.sent_snoc, Watch.cost, howes, hdebt', Bool.toNat_false]
  omega

/-- A watch that listens, has shown nothing and is behind the log has failed, and lost changes. -/
theorem Watch.IsUntouched.overflowed (h : x.IsUntouched origin query)
    (life : x.Life origin number query policy t w) (hphase : x.phase = .listening)
    (hlag : x.position < w.log.oldest) : origin.Overflowed number query policy t where
  policy_eq := life.policy_eq.symm.trans h.policy_eq
  stored := h.stored
  failed := by
    apply life.sent.failed hphase h.policy_eq
    have hshown := h.shown_eq
    rw [← lastData_eq_none_iff, life.last h.goes]
    simpa [Watch.shown, hphase] using hshown
  lost := by
    have hstart := life.start_le
    have hsent := life.sent_eq
    have hcapacity := life.capacity_eq
    rw [Multicast.oldest_eq] at hlag
    omega

theorem Watch.IsUntouched.own (h : x.IsUntouched origin query)
    (life : x.Life origin number query policy t w) (step : Step w l w')
    (advance : Advance number x (w.hub.isReceived number) w.hub.cache l x') :
    x'.Accounted origin number query policy (t ++ [⟨l, w'⟩]) w' := by
  have hone := h.cost_le_one life step advance
  by_cases hwhy : x.willLook = true ∨ x'.phase = .stopped
  · left
    rw [h.cost_eq_zero life step advance hwhy]
    exact Nat.zero_le _
  · have hlooked : x.willLook = false := Bool.eq_false_iff.2 fun hlook => hwhy (.inl hlook)
    have hgoes : x'.phase ≠ .stopped := fun hstopped => hwhy (.inr hstopped)
    by_cases hrereading : x'.phase = .rereading
    · obtain ⟨hphase, htold | hlag⟩ := advance.of_rereading hrereading
      · left
        rw [life.query_eq] at htold
        have hpos := life.announced htold
        have hanswering := step.answering_eq t query
        unfold World.answering at hanswering ⊢
        omega
      · exact .inr (.inr ⟨(h.overflowed life hphase hlag).snoc _, by omega⟩)
    · have hshown := (advance.shown_eq hlooked hgoes).1
      exact .inr (.inl
        { policy_eq := advance.policy_eq.trans h.policy_eq
          stored := h.stored
          shown_eq := hshown.trans h.shown_eq
          goes := hgoes
          phase_ne := hrereading })

theorem Watch.Accounted.own (h : x.Accounted origin number query policy t w)
    (life : x.Life origin number query policy t w) (step : Step w l w')
    (advance : Advance number x (w.hub.isReceived number) w.hub.cache l x') :
    x'.Accounted origin number query policy (t ++ [⟨l, w'⟩]) w' := by
  have hcost := step.cost_own advance life.sent
  have hanswering := step.answering_eq t query
  rw [life.query_eq] at hcost
  rcases h with hpaid | huntouched | ⟨hover, hpaid⟩
  · left
    rw [Trace.sent_snoc]
    omega
  · exact huntouched.own life step advance
  · right
    right
    rw [Trace.sent_snoc]
    exact ⟨hover.snoc _, by omega⟩

theorem Watch.Accounted.born (origin : World) (number : Nat) (query : Query) (policy : Policy) :
    (Watch.create origin.hub.cache query policy).Accounted origin number query policy []
      origin := by
  cases howes : (Watch.create origin.hub.cache query policy).owes (origin.entry query) with
  | false =>
      left
      rw [Watch.cost, howes]
      exact Nat.zero_le _
  | true =>
      obtain ⟨-, hblind, hlacks⟩ := Watch.owes_eq_true_iff.1 howes
      refine .inr (.inl ⟨?_, ?_, rfl, by simp [Watch.create], by simp [Watch.create]⟩)
      · simpa [Watch.isBlind, Watch.create] using hblind
      · cases hentry : origin.entry query with
        | none => simp [hentry] at hlacks
        | some data => rfl

theorem Run.accounted (run : Run origin t w) (born : origin.Opened number query policy) :
    ∃ x, w.hub.watch? number = some x ∧ x.Life origin number query policy t w ∧
      x.Accounted origin number query policy t w := by
  refine run.life_induction born (.born origin number query policy) ?_ ?_
  · intro t w l w' x life h step _ hl
    exact h.others step hl
  · intro t w l w' x x' life h step _ advance
    exact h.own life step advance

/-- A watch that listens, has shown nothing and is behind the log sends the entry, whatever the
changes were that it lost. -/
theorem Step.resend_after_loss {data : Json} (hx : w.hub.watch? number = some x)
    (hphase : x.phase = .listening) (hreceived : w.hub.isReceived number = true)
    (hlast : x.lastSent = none) (hlag : x.position < w.log.oldest)
    (hdata : w.entry x.query = some data) :
    ∃ t' w', Run w t' w' ∧ t'.sent number = [.response data true] ∧ t'.changes query = 0 ∧
      t'.announcements = 0 := by
  let x₁ : Watch := { x with position := w.log.oldest, phase := .rereading }
  have hstep₁ : x.step (w.hub.isReceived number) w.hub.cache = some (x₁, .none) := by
    have hreceive : w.hub.cache.changes.receive x.position = (.lagged _, w.log.oldest) :=
      if_pos hlag
    simp [Watch.step, hphase, hreceived, Cache.nextChange, hreceive, Delivery.arrival,
      Watch.afterChange, x₁]
  obtain ⟨w₁, step₁, hx₁, hreceived₁, hcache₁⟩ := Step.of_watch hx hstep₁
  have hget : w₁.hub.cache.get? x₁.query = some data := by
    rw [hcache₁, Watch.leave_get?]
    exact hdata
  have hstep₂ : x₁.step (w₁.hub.isReceived number) w₁.hub.cache =
      some (x₁.goTo (.sendingChange data), .none) := by
    have hafter : x₁.afterReread (some data) = .sendingChange data := by
      simp [Watch.afterReread, Watch.repeats, x₁, hlast]
    rw [Watch.step, hget, hafter]
  obtain ⟨w₂, step₂, hx₂, hreceived₂, -⟩ := Step.of_watch hx₁ hstep₂
  have hstep₃ : (x₁.goTo (.sendingChange data)).step (w₂.hub.isReceived number) w₂.hub.cache =
      some ({ x₁ with lastSent := some data, phase := .listening },
        .send (.response data true)) := by
    rw [hreceived₂, hreceived₁, hreceived]
    rfl
  obtain ⟨w₃, step₃, -⟩ := Step.of_watch hx₂ hstep₃
  refine ⟨_, w₃, .cons step₁ (.cons step₂ (.cons step₃ .nil)), ?_, ?_, ?_⟩
  · simp [Trace.sent, Label.sentBy, Effect.label]
  · simp [Trace.changes, Label.changes, Effect.label]
  · simp [Trace.announcements, Label.isAnnouncement, Effect.label]

/-- Responses after the resolution are at most as many as the changes of the entry that are
announced while the watch is there, or are about to be. There can be one more only after a failed
request of the network alone, over an entry, when the log of changes lost some. And then there is
one: it needs no change of the entry. -/
theorem reemissions_are_answered (run : Run origin t w)
    (born : origin.Opened number query policy) :
    ((reemitted (t.sent number)).length ≤ t.announced query + w.inFlight query ∨
      (origin.Overflowed number query policy t ∧
        (reemitted (t.sent number)).length ≤ t.announced query + w.inFlight query + 1)) ∧
    ∀ x data, w.hub.watch? number = some x → x.phase = .listening →
      w.hub.isReceived number = true → (t.sent number).any Event.isResponse = false →
      x.position < w.log.oldest → w.entry query = some data →
      ∃ t' w', Run w t' w' ∧ t'.sent number = [.response data true] ∧
        t'.changes query = 0 ∧ t'.announcements = 0 := by
  obtain ⟨x, hx, life, haccount⟩ := run.accounted born
  constructor
  · unfold Watch.Accounted Watch.cost World.answering at haccount
    rcases haccount with hpaid | huntouched | ⟨hover, hpaid⟩
    · exact .inl (by omega)
    · left
      rw [(huntouched.reemitted_eq life).1]
      exact Nat.zero_le _
    · exact .inr ⟨hover, by omega⟩
  · intro y data hy hphase hreceived hsilent hlag hdata
    obtain rfl : y = x := by simpa [hx] using hy.symm
    rw [← life.query_eq] at hdata
    have hlast : y.lastSent = none := by
      rw [← life.last (by simp [hphase]), lastData_eq_none_iff, hsilent]
    exact Step.resend_after_loss hx hphase hreceived hlast hlag hdata

end Account

/-- A request of the network alone fails, and then another entry is changed so many times. -/
def changesAfterFailure (other : Query) (count : Nat) : List Deed :=
  [.watch 0, .watch 0, .answer 0 (.error (.ofText "down")), .watch 0, .watch 0] ++
    (List.range count).flatMap fun k => [.store other (.integer k), .announce other]

/-- Nobody touches the entry of the query, and still it is sent as a change. -/
theorem reemission_without_change :
    let query : Query := .commits "own"
    let cache := Cache.empty.insert query (.bool true)
    let origin : World := .watching cache query .networkOnly
    let deeds := changesAfterFailure (.commits "other") 257
    let t := origin.trace deeds
    let w := origin.after deeds
    Run origin t w ∧ origin.Opened 0 query .networkOnly ∧ t.announced query + w.inFlight query = 0 ∧
      ∃ data t' w', Run w t' w' ∧ t'.sent 0 = [.response data true] ∧ t'.changes query = 0 ∧
        t'.announcements = 0 := by
  intro query cache origin deeds t w
  have run : Run origin t w := .of_deeds origin deeds
  have born : origin.Opened 0 query .networkOnly := rfl
  have hanswering : t.announced query + w.inFlight query = 0 := by decide +kernel
  have hbehind : (w.hub.watch? 0).any
      (fun x => x.isListening && decide (x.position < w.log.oldest)) = true := by decide +kernel
  have hreceived : w.hub.isReceived 0 = true := by decide +kernel
  have hsilent : (t.sent 0).any Event.isResponse = false := by decide +kernel
  have hholds : w.hub.cache.holds query (.bool true) = true := by decide +kernel
  obtain ⟨data, hdata, -⟩ := (Cache.holds_eq_true_iff _ _ _).1 hholds
  obtain ⟨x, hx, hlag⟩ := (Option.any_eq_true _ _).1 hbehind
  rw [Bool.and_eq_true, decide_eq_true_iff] at hlag
  obtain ⟨t', w', hnext⟩ := (reemissions_are_answered run born).2 x data hx
    (Watch.isListening_iff.1 hlag.1) hreceived hsilent hlag.2 hdata
  exact ⟨run, born, hanswering, data, t', w', hnext⟩

end RepoWatch
