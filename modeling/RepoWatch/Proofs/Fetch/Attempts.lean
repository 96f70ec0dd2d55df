import Mathlib.Algebra.Group.Nat.Defs
import RepoWatch.Fetch.Retry
import RepoWatch.Proofs.Fetch.Chronicle
/-!
# Attempts

What a fetch does that is retried: one attempt after the other, each but the last one failed, noted
and followed by its pause. No number that is counted on the way is too great for a word.
-/

namespace RepoWatch

namespace RetryPolicy

/-- The pause that is due after a number of failed attempts, however long that is. -/
def pause (p : RetryPolicy) (failed : Nat) : Span :=
  ⟨p.baseDelay.nanoseconds * 2 ^ min failed 31⟩

/-- The greatest number of attempts. -/
def mostAttempts (p : RetryPolicy) : Nat := max p.attempts.toNat 1

theorem mostAttempts_lt (p : RetryPolicy) : p.mostAttempts < UInt32.size := by
  have hattempts := p.attempts.toNat_lt
  simp only [mostAttempts, UInt32.size]
  omega

theorem toNat_limit (p : RetryPolicy) : p.limit.toNat = p.mostAttempts := by
  show (if p.attempts ≤ 1 then (1 : UInt32) else p.attempts).toNat = max p.attempts.toNat 1
  split
  · rename_i hle
    have hone : p.attempts.toNat ≤ 1 := UInt32.le_iff_toNat_le.1 hle
    rw [Nat.max_eq_right hone]
    rfl
  · rename_i hnot
    have hone : 1 < p.attempts.toNat := UInt32.lt_iff_toNat_lt.1 (UInt32.not_le.1 hnot)
    rw [Nat.max_eq_left (Nat.le_of_lt hone)]

theorem toNat_min_doublingLimit (n : UInt32) : (min n doublingLimit).toNat = min n.toNat 31 := by
  show (if n ≤ doublingLimit then n else doublingLimit).toNat = min n.toNat 31
  split
  · rename_i hle
    have hbound : n.toNat ≤ 31 := UInt32.le_iff_toNat_le.1 hle
    rw [Nat.min_eq_left hbound]
  · rename_i hnot
    have hbound : 31 < n.toNat := UInt32.lt_iff_toNat_lt.1 (UInt32.not_le.1 hnot)
    rw [Nat.min_eq_right (Nat.le_of_lt hbound)]
    rfl

theorem word_eq_ok {n : Nat} (overflow : String) (h : n < UInt32.size) :
    word n overflow = .ok (UInt32.ofNat n) := if_pos h

theorem two_pow_lt (n : Nat) : 2 ^ min n 31 < UInt32.size :=
  calc 2 ^ min n 31
      ≤ 2 ^ 31 := Nat.pow_le_pow_right (by decide) (Nat.min_le_right _ _)
    _ < UInt32.size := by decide

/-- The factor of a pause fits a word. -/
theorem factor_eq_ok (failed : UInt32) :
    factor failed = .ok (UInt32.ofNat (2 ^ min failed.toNat 31)) := by
  unfold factor
  rw [toNat_min_doublingLimit]
  exact word_eq_ok _ (two_pow_lt _)

/-- A pause is as long as it should be, unless that is longer than any span. -/
theorem delay_eq (p : RetryPolicy) (failed : UInt32) : p.delay failed =
    if (p.pause failed.toNat).nanoseconds ≤ Span.longest.nanoseconds then .ok (p.pause failed.toNat)
    else .error delayOverflow := by
  have hscale : p.baseDelay.scale? (2 ^ min failed.toNat 31) =
      if (p.pause failed.toNat).nanoseconds ≤ Span.longest.nanoseconds then
        some (p.pause failed.toNat) else none := rfl
  unfold delay
  rw [factor_eq_ok]
  dsimp only [bind, Except.bind]
  rw [UInt32.toNat_ofNat_of_lt' (two_pow_lt failed.toNat), hscale]
  by_cases hfits : (p.pause failed.toNat).nanoseconds ≤ Span.longest.nanoseconds
  · simp only [if_pos hfits]
    rfl
  · simp only [if_neg hfits]
    rfl

end RetryPolicy

namespace Plan

variable {ι α : Type}

/-- An attempt that failed: what was done for it, and its error. -/
structure FailedAttempt (ι : Type) where
  acts : List (Act ι)
  error : ErrorChain

section Attempts

variable (policy : RetryPolicy) (operation : Operation) (fetch : Plan ι (Except ErrorChain α))

/-- What is done in failed attempts, from a number on, and after each of them: it is noted, and the
pause follows. -/
def transcript : Nat → List (FailedAttempt ι) → List (Act ι)
  | _, [] => []
  | number, a :: failed =>
    a.acts ++ .notes (.attemptFailed number operation a.error.top)
      :: .waits (policy.pause number) :: transcript (number + 1) failed

/-- What is done in an attempt that no other one follows, and what comes of it. -/
inductive LastAttempt (number : Nat) :
    List (Act ι) → Option (Outcome (Except ErrorChain α)) → Prop where
  | succeeds {acts : List (Act ι)} {a : α} (h : fetch.Course acts (some (.finished (.ok a)))) :
      LastAttempt number acts (some (.finished (.ok a)))
  /-- No further attempt is allowed. -/
  | givesUp {acts : List (Act ι)} {e : ErrorChain}
      (h : fetch.Course acts (some (.finished (.error e)))) (hlast : number = policy.mostAttempts) :
      LastAttempt number (acts ++ [.notes (.attemptFailed number operation e.top)])
        (some (.finished (.error
          (e.wrap (.plain ("Failed after " ++ toString number ++ " attempts"))))))
  /-- The pause that is due is longer than any span. -/
  | overflows {acts : List (Act ι)} {e : ErrorChain}
      (h : fetch.Course acts (some (.finished (.error e)))) (hmore : number < policy.mostAttempts)
      (hlong : Span.longest.nanoseconds < (policy.pause number).nanoseconds) :
      LastAttempt number (acts ++ [.notes (.attemptFailed number operation e.top)])
        (some (.crashed RetryPolicy.delayOverflow))
  | crashes {acts : List (Act ι)} {reason : String}
      (h : fetch.Course acts (some (.crashed reason))) :
      LastAttempt number acts (some (.crashed reason))
  | underWay {acts : List (Act ι)} (h : fetch.Course acts none) : LastAttempt number acts none
  | noted {acts : List (Act ι)} {e : ErrorChain}
      (h : fetch.Course acts (some (.finished (.error e)))) :
      LastAttempt number (acts ++ [.notes (.attemptFailed number operation e.top)]) none

/-- What is done when some attempts have failed already: some more fail, and one is the last. -/
structure Goes (count : Nat) (failed : List (FailedAttempt ι)) (last acts : List (Act ι))
    (ending : Option (Outcome (Except ErrorChain α))) : Prop where
  each : ∀ a ∈ failed, fetch.Course a.acts (some (.finished (.error a.error)))
  few : count + failed.length < policy.mostAttempts
  short : ∀ number, count < number → number ≤ count + failed.length →
    (policy.pause number).nanoseconds ≤ Span.longest.nanoseconds
  acts_eq : acts = transcript policy operation (count + 1) failed ++ last
  isLast : LastAttempt policy operation fetch (count + failed.length + 1) last ending

/-- What is done after an attempt failed. -/
def afterFailure (count : Nat) (e : ErrorChain) : Plan ι (Except ErrorChain α) :=
  .note (.attemptFailed (count + 1) operation e.top)
    (if count + 1 = policy.mostAttempts then
      .done (.error (e.wrap (.plain ("Failed after " ++ toString (count + 1) ++ " attempts"))))
    else if (policy.pause (count + 1)).nanoseconds ≤ Span.longest.nanoseconds then
      .wait (policy.pause (count + 1)) fun _ =>
        attempt policy operation fetch (UInt32.ofNat (count + 1))
    else .crash RetryPolicy.delayOverflow)

/-- The counter of attempts never runs over. -/
theorem attempt_eq {count : Nat} (h : count < policy.mostAttempts) :
    attempt policy operation fetch (UInt32.ofNat count) = fetch.bind fun
      | .ok a => .done (.ok a)
      | .error e => afterFailure policy operation fetch count e := by
  have hbound := policy.mostAttempts_lt
  have hcount : (UInt32.ofNat count).toNat = count := UInt32.toNat_ofNat_of_lt' (by omega)
  have hmore : (UInt32.ofNat (count + 1)).toNat = count + 1 := UInt32.toNat_ofNat_of_lt' (by omega)
  have hnext : RetryPolicy.oneMore (UInt32.ofNat count) = .ok (UInt32.ofNat (count + 1)) := by
    unfold RetryPolicy.oneMore
    rw [hcount]
    exact RetryPolicy.word_eq_ok _ (by omega)
  have hlimit : policy.limit ≤ UInt32.ofNat (count + 1) ↔ count + 1 = policy.mostAttempts := by
    rw [UInt32.le_iff_toNat_le, policy.toNat_limit, hmore]
    omega
  have hdelay := policy.delay_eq (UInt32.ofNat (count + 1))
  rw [hmore] at hdelay
  rw [attempt]
  congr 1
  funext result
  cases result with
  | ok a => rfl
  | error e =>
      dsimp only
      split
      · rename_i hoverflow
        rw [hnext] at hoverflow
        cases hoverflow
      · rename_i more hcounted
        obtain rfl := Except.ok.inj (hnext.symm.trans hcounted)
        simp only [afterFailure, RetryPolicy.exhausted, hmore, hlimit, hdelay]
        by_cases hfits :
          (policy.pause (count + 1)).nanoseconds ≤ Span.longest.nanoseconds
        · simp only [if_pos hfits]
        · simp only [if_neg hfits]

variable {policy operation fetch} {count : Nat} {failed : List (FailedAttempt ι)}
  {last acts : List (Act ι)} {ending : Option (Outcome (Except ErrorChain α))}

theorem Goes.nil (h : LastAttempt policy operation fetch (count + 1) acts ending)
    (hcount : count < policy.mostAttempts) :
    Goes policy operation fetch count [] acts acts ending where
  each := by simp
  few := hcount
  short number hlow hhigh := absurd hhigh (Nat.not_le.2 hlow)
  acts_eq := rfl
  isLast := h

theorem Goes.cons {a : FailedAttempt ι}
    (h : fetch.Course a.acts (some (.finished (.error a.error))))
    (hshort : (policy.pause (count + 1)).nanoseconds ≤ Span.longest.nanoseconds)
    (later : Goes policy operation fetch (count + 1) failed last acts ending) :
    Goes policy operation fetch count (a :: failed) last
      (a.acts ++ .notes (.attemptFailed (count + 1) operation a.error.top)
        :: .waits (policy.pause (count + 1)) :: acts) ending where
  each := by
    rintro b (_ | ⟨_, hmem⟩)
    · exact h
    · exact later.each b hmem
  few := by
    have hfew := later.few
    rw [List.length_cons]
    omega
  short number hlow hhigh := by
    rw [List.length_cons] at hhigh
    by_cases hfirst : number = count + 1
    · rw [hfirst]
      exact hshort
    · exact later.short number (by omega) (by omega)
  acts_eq := by
    rw [later.acts_eq]
    simp [transcript]
  isLast := by
    have hlast := later.isLast
    rwa [List.length_cons, show count + (failed.length + 1) + 1 = count + 1 + failed.length + 1 by
      omega]

/-- After the first attempt there are the same attempts from the next number on. -/
theorem Goes.tail {a : FailedAttempt ι}
    (h : Goes policy operation fetch count (a :: failed) last acts ending) :
    ∃ later, Goes policy operation fetch (count + 1) failed last later ending ∧
      acts = a.acts ++ .notes (.attemptFailed (count + 1) operation a.error.top)
        :: .waits (policy.pause (count + 1)) :: later := by
  have hfew := h.few
  have hlast := h.isLast
  rw [List.length_cons] at hfew hlast
  refine ⟨transcript policy operation (count + 1 + 1) failed ++ last, ⟨?_, ?_, ?_, rfl, ?_⟩, ?_⟩
  · exact fun b hmem => h.each b (.tail _ hmem)
  · omega
  · intro number hlow hhigh
    refine h.short number (by omega) ?_
    rw [List.length_cons]
    omega
  · rwa [show count + 1 + failed.length + 1 = count + (failed.length + 1) + 1 by omega]
  · rw [h.acts_eq]
    simp [transcript]

/-- A failed attempt is the last one, or its pause is waited for and the next one follows. -/
theorem course_afterFailure {before after : List (Act ι)} {e : ErrorChain}
    (hcount : count < policy.mostAttempts)
    (hfetch : fetch.Course before (some (.finished (.error e))))
    (h : (afterFailure policy operation fetch count e).Course after ending) :
    LastAttempt policy operation fetch (count + 1) (before ++ after) ending ∨
      ∃ later, count + 1 < policy.mostAttempts ∧
        (policy.pause (count + 1)).nanoseconds ≤ Span.longest.nanoseconds ∧
        after = .notes (.attemptFailed (count + 1) operation e.top)
          :: .waits (policy.pause (count + 1)) :: later ∧
        (attempt policy operation fetch (UInt32.ofNat (count + 1))).Course later ending := by
  rcases course_note_iff.1 h with ⟨rfl, rfl⟩ | ⟨later, rfl, hlater⟩
  · rw [List.append_nil]
    exact .inl (.underWay hfetch.cut)
  · split at hlater
    · rename_i hlast
      obtain ⟨rfl, hend⟩ := course_done_iff.1 hlater
      cases ending with
      | none => exact .inl (.noted hfetch)
      | some o =>
          obtain rfl := hend o rfl
          exact .inl (.givesUp hfetch hlast)
    · rename_i hnotLast
      have hmore : count + 1 < policy.mostAttempts := by omega
      split at hlater
      · rename_i hshort
        rcases course_wait_iff.1 hlater with ⟨rfl, rfl⟩ | ⟨rest, rfl, hrest⟩
        · exact .inl (.noted hfetch)
        · exact .inr ⟨rest, hmore, hshort, rfl, hrest⟩
      · rename_i hlong
        obtain ⟨rfl, hend⟩ := course_crash_iff.1 hlater
        cases ending with
        | none => exact .inl (.noted hfetch)
        | some o =>
            obtain rfl := hend o rfl
            exact .inl (.overflows hfetch hmore (Nat.not_le.1 hlong))

theorem goes_of_course (hcount : count < policy.mostAttempts)
    (h : (attempt policy operation fetch (UInt32.ofNat count)).Course acts ending) :
    ∃ failed last, Goes policy operation fetch count failed last acts ending := by
  -- on the number of attempts that are left
  induction hleft : policy.mostAttempts - count generalizing count acts with
  | zero => omega
  | succ left ih =>
      rw [attempt_eq policy operation fetch hcount] at h
      cases course_bind h with
      | underWay hfetch => exact ⟨[], _, .nil (.underWay hfetch) hcount⟩
      | crashed hfetch => exact ⟨[], _, .nil (.crashes hfetch) hcount⟩
      | @finished before after result _ hfetch hafter =>
          cases result with
          | ok a =>
              obtain ⟨rfl, hend⟩ := course_done_iff.1 hafter
              rw [List.append_nil]
              cases ending with
              | none => exact ⟨[], _, .nil (.underWay hfetch.cut) hcount⟩
              | some o =>
                  obtain rfl := hend o rfl
                  exact ⟨[], _, .nil (.succeeds hfetch) hcount⟩
          | error e =>
              rcases course_afterFailure hcount hfetch hafter with
                hlast | ⟨later, hmore, hshort, rfl, hlater⟩
              · exact ⟨[], _, .nil hlast hcount⟩
              · obtain ⟨failed, last, hgoes⟩ := ih hmore hlater (by omega)
                exact ⟨⟨before, e⟩ :: failed, last, .cons hfetch hshort hgoes⟩

theorem LastAttempt.course (h : LastAttempt policy operation fetch (count + 1) acts ending)
    (hcount : count < policy.mostAttempts) :
    (attempt policy operation fetch (UInt32.ofNat count)).Course acts ending := by
  rw [attempt_eq policy operation fetch hcount]
  cases h with
  | succeeds hfetch =>
      rw [← List.append_nil acts]
      exact hfetch.bind_finished (.done _)
  | crashes hfetch => exact hfetch.bind_crashed
  | underWay hfetch => exact hfetch.bind_underWay
  | noted hfetch => exact hfetch.bind_finished (.note (.underWay _))
  | givesUp hfetch hlast =>
      refine hfetch.bind_finished (.note ?_)
      rw [if_pos hlast]
      exact .done _
  | overflows hfetch hmore hlong =>
      refine hfetch.bind_finished (.note ?_)
      rw [if_neg (Nat.ne_of_lt hmore), if_neg (Nat.not_le.2 hlong)]
      exact .crash _

theorem Goes.course (h : Goes policy operation fetch count failed last acts ending) :
    (attempt policy operation fetch (UInt32.ofNat count)).Course acts ending := by
  induction failed generalizing count acts with
  | nil =>
      rw [h.acts_eq]
      exact h.isLast.course h.few
  | cons a failed ih =>
      obtain ⟨later, hlater, rfl⟩ := h.tail
      have hfew := hlater.few
      have hmore : count + 1 ≠ policy.mostAttempts := by omega
      have hshort : (policy.pause (count + 1)).nanoseconds ≤ Span.longest.nanoseconds := by
        refine h.short (count + 1) (by omega) ?_
        rw [List.length_cons]
        omega
      rw [attempt_eq policy operation fetch (by omega)]
      refine (h.each a (.head _)).bind_finished (.note ?_)
      rw [if_neg hmore, if_pos hshort]
      exact .wait (ih hlater)

theorem retrying_course_iff :
    (retrying policy operation fetch).Course acts ending ↔
      ∃ failed last, Goes policy operation fetch 0 failed last acts ending := by
  have hpos : 0 < policy.mostAttempts := Nat.lt_of_lt_of_le Nat.one_pos (Nat.le_max_right _ _)
  constructor
  · exact goes_of_course hpos
  · rintro ⟨failed, last, goes⟩
    exact goes.course

theorem LastAttempt.crashed {number : Nat} {reason : String}
    (h : LastAttempt policy operation fetch number acts (some (.crashed reason))) :
    reason = RetryPolicy.delayOverflow ∨ ∃ own, fetch.Course own (some (.crashed reason)) := by
  cases h with
  | overflows => exact .inl rfl
  | crashes hfetch => exact .inr ⟨_, hfetch⟩

end Attempts

/-- A fetch that is retried is tried again and again: some attempts fail, fewer than are allowed, and
each of them is noted and followed by its pause, which is no longer than the longest span; then there
is one more attempt. When that succeeds its result is the result. When it fails it is noted, and its
error is the error, told how many attempts there were, if no other attempt is allowed; if one is
allowed the pause that is due is too long. Counting never runs over, and carrying out the fetch comes
to an end. -/
theorem retried_until_success (policy : RetryPolicy) (operation : Operation)
    (fetch : Plan ι (Except ErrorChain α)) :
    (∀ acts ending, (retrying policy operation fetch).Course acts ending ↔
      ∃ failed last,
        (∀ a ∈ failed, fetch.Course a.acts (some (.finished (.error a.error)))) ∧
        failed.length < max policy.attempts.toNat 1 ∧
        (∀ number, 1 ≤ number → number ≤ failed.length →
          policy.baseDelay.nanoseconds * 2 ^ min number 31 ≤ Span.longest.nanoseconds) ∧
        acts = transcript policy operation 1 failed ++ last ∧
        LastAttempt policy operation fetch (failed.length + 1) last ending) ∧
    (∀ acts reason, (retrying policy operation fetch).Course acts (some (.crashed reason)) →
      reason = RetryPolicy.delayOverflow ∨ ∃ own, fetch.Course own (some (.crashed reason))) ∧
    ∀ e, ∃ acts, (retrying policy operation fetch).Course acts
      (some ((retrying policy operation fetch).run e).1) := by
  refine ⟨fun acts ending => ?_, fun acts reason h => ?_, fun e => ⟨_, course_entries _ e⟩⟩
  · rw [retrying_course_iff]
    constructor
    · rintro ⟨failed, last, goes⟩
      have hfew := goes.few
      have hshort := goes.short
      have hlast := goes.isLast
      rw [Nat.zero_add] at hfew hshort hlast
      exact ⟨failed, last, goes.each, hfew, hshort, goes.acts_eq, hlast⟩
    · rintro ⟨failed, last, heach, hfew, hshort, hacts, hlast⟩
      rw [← Nat.zero_add failed.length] at hfew hshort hlast
      exact ⟨failed, last, heach, hfew, hshort, hacts, hlast⟩
  · obtain ⟨failed, last, goes⟩ := retrying_course_iff.1 h
    exact goes.isLast.crashed

/-- The third attempt of at most three succeeds. -/
theorem retried_until_success_third :
    let query : Query := .commits "own"
    let down : Except ErrorChain Nat := .error (.ofText "down")
    (retrying ⟨3, .ofMilliseconds 10⟩ query.operation (.call query .done)).Course
      [.asks query, .hears down, .notes (.attemptFailed 1 .commits "down"),
        .waits (.ofMilliseconds 20),
        .asks query, .hears down, .notes (.attemptFailed 2 .commits "down"),
        .waits (.ofMilliseconds 40),
        .asks query, .hears (.ok 7)]
      (some (.finished (.ok 7))) := by
  intro query down
  let fetch : Plan (Except ErrorChain Nat) (Except ErrorChain Nat) := .call query .done
  let first : FailedAttempt (Except ErrorChain Nat) :=
    ⟨[.asks query, .hears down], .ofText "down"⟩
  have hlast : fetch.Course [.asks query, .hears (.ok 7)] (some (.finished (.ok 7))) :=
    .call (.done _)
  refine ((retried_until_success _ _ fetch).1 _ _).2
    ⟨[first, first], _, ?_, by decide, ?_, rfl, .succeeds hlast⟩
  · intro a hmem
    obtain rfl : a = first := by simpa using hmem
    exact .call (.done down)
  · intro number hlow hhigh
    have htwo : number = 1 ∨ number = 2 := by
      simp only [List.length_cons, List.length_nil] at hhigh
      omega
    rcases htwo with rfl | rfl <;> decide

end Plan
end RepoWatch
