import RepoWatch.Payload.Quota
import RepoWatch.Proofs.Time.Written
/-!
# The time until the reset

How long a fetch has to wait for the reset of a quota is the time that lies between the present and
the moment that the quota's words denote, to the nanosecond; no time when that moment has passed.
-/

namespace RepoWatch

/-- The nanoseconds that a signed count of milliseconds in 64 bits can tell. -/
def Instant.greatestDifference : Int := 0x7FFFFFFFFFFFFFFF * Span.perMillisecond

/-- A number of nanoseconds since the beginning of 1970 lies in the years from -262143 to 262142, which
are those that can be told. -/
def Instant.IsTellable (nanoseconds : Int) : Prop :=
  -8334601228800 * Span.perSecond ≤ nanoseconds ∧ nanoseconds < 8210266876800 * Span.perSecond

namespace Timestamp.Written

variable (w : Written)

theorem nanosecondsOf_lt (fraction : List (Fin 10)) : nanosecondsOf fraction < Span.perSecond := by
  have hlt := value_lt fraction
  rw [value] at hlt
  unfold nanosecondsOf
  exact Nat.div_lt_of_lt_mul (Nat.mul_lt_mul_of_pos_right hlt (by decide))

/-- The moment that is read. -/
def moment : Instant := Timestamp.moment w.date w.timeOfDay (w.zone.minutes * 60)

theorem inLeapSecond_moment : w.moment.inLeapSecond = false :=
  decide_eq_false (Nat.not_le.2 (nanosecondsOf_lt w.fraction))

theorem denotes_iff (nanoseconds : Int) :
    w.Denotes nanoseconds ↔ nanoseconds = w.moment.unixNanoseconds := by
  have hmoment : w.moment.unixNanoseconds = (((w.date.dayNumber * 24 + w.hour.val) * 60
      + w.minute.val - w.zone.minutes) * 60 + w.second.val) * Span.perSecond
      + nanosecondsOf w.fraction := by
    rw [moment, Timestamp.moment, Instant.unixNanoseconds_ofUnix]
    simp only [timeOfDay, Instant.secondsPerDay, Span.perSecond]
    omega
  rw [hmoment, Denotes]
  simp only [Date.counts_iff, exists_eq_left]

theorem isTellable_moment : Instant.IsTellable w.moment.unixNanoseconds := by
  obtain ⟨days, hdays, heq⟩ := (w.denotes_iff _).2 rfl
  have hlow := w.date.neg_epoch_le_dayNumber
  have hhigh := w.date.dayNumber_le
  have hyear := w.year_lt
  have hnanosecond := nanosecondsOf_lt w.fraction
  have hzone := w.zone.natAbs_minutes_lt
  rw [heq, Date.counts_iff.1 hdays]
  simp only [Instant.IsTellable, Date.epoch, Instant.secondsPerDay, Span.perSecond] at *
  omega

end Timestamp.Written

namespace Payload.Quota

open Timestamp (Written)

theorem untilReset_written (w : Written) (limit cost remaining : Int32) {now : Instant}
    (hnow : now.inLeapSecond = false) :
    (Quota.mk limit cost remaining w.text).untilReset now =
      .ok ⟨(max 0 (w.moment.unixNanoseconds - now.unixNanoseconds)).toNat⟩ := by
  have hspan := Instant.spanFrom_eq w.inLeapSecond_moment hnow
  rw [← hspan, Int.toNat_natCast, untilReset]
  simp only [w.read_text]
  rfl

/-- The words for a reset denote one moment. How long it takes until the reset is the time from the
present to that moment, to the nanosecond, or none when the moment has passed. So other words for the
moment give the same wait, and later the wait is not longer. The moment can be told, and so can the
difference to any present that can be, and the wait is no longer than the longest span. -/
theorem wait_lasts_until_reset (w : Written) (limit cost remaining : Int32) :
    let quota : Quota := ⟨limit, cost, remaining, w.text⟩
    ∃ reset : Int, (∀ moment, w.Denotes moment ↔ moment = reset) ∧
      (∀ now : Instant, now.inLeapSecond = false →
        quota.untilReset now = .ok ⟨(max 0 (reset - now.unixNanoseconds)).toNat⟩) ∧
      (∀ (other : Quota) (words : Written), other.resetAt = words.text → words.Denotes reset →
        ∀ now : Instant, now.inLeapSecond = false →
          other.untilReset now = quota.untilReset now) ∧
      (∀ now later : Instant, now.inLeapSecond = false → later.inLeapSecond = false →
        now.unixNanoseconds ≤ later.unixNanoseconds → ∃ wait rest,
          quota.untilReset now = .ok wait ∧ quota.untilReset later = .ok rest ∧
          rest.nanoseconds ≤ wait.nanoseconds) ∧
      Instant.IsTellable reset ∧
      ∀ now : Instant, now.inLeapSecond = false → Instant.IsTellable now.unixNanoseconds →
        |reset - now.unixNanoseconds| ≤ Instant.greatestDifference ∧
        (max 0 (reset - now.unixNanoseconds)).toNat ≤ Span.longest.nanoseconds := by
  intro quota
  have hwait : ∀ now : Instant, now.inLeapSecond = false → quota.untilReset now =
      .ok ⟨(max 0 (w.moment.unixNanoseconds - now.unixNanoseconds)).toNat⟩ := fun now hnow =>
    untilReset_written w limit cost remaining hnow
  have htellable := w.isTellable_moment
  refine ⟨w.moment.unixNanoseconds, w.denotes_iff, hwait, ?_, ?_, htellable, ?_⟩
  · rintro ⟨limit', cost', remaining', resetAt⟩ words rfl hdenotes now hnow
    rw [hwait now hnow, untilReset_written words limit' cost' remaining' hnow,
      (words.denotes_iff _).1 hdenotes]
  · intro now later hnow hlater hle
    refine ⟨_, _, hwait now hnow, hwait later hlater, ?_⟩
    dsimp only
    omega
  · intro now _ hpresent
    simp only [Instant.IsTellable, Instant.greatestDifference, Span.longest, Span.perSecond,
      Span.perMillisecond] at *
    rw [abs_le]
    omega

/-- Half an hour past midnight on the first of March, one hour ahead of universal time, is on the leap
day before; what is finer than a nanosecond does not count. -/
theorem wait_lasts_until_reset_leap_day :
    let ahead : Written := ⟨⟨2024, 3, 1, by decide, by decide⟩, by decide, .lower, 0, 30, 0,
      [0, 0, 0, 0, 0, 0, 0, 0, 7, 9], .ahead 1 0⟩
    let universal : Written := ⟨⟨2024, 2, 29, by decide, by decide⟩, by decide, .blank, 23, 30, 0,
      [0, 0, 0, 0, 0, 0, 0, 0, 7], .universal true⟩
    let now : Instant := .ofUnix 1709249399 0
    let later : Instant := .ofUnix 1709249400 5
    ahead.text = "2024-03-01t00:30:00.0000000079+01:00" ∧
      universal.text = "2024-02-29 23:30:00.000000007Z" ∧
      now.inLeapSecond = false ∧ later.inLeapSecond = false ∧
      now.unixNanoseconds ≤ later.unixNanoseconds ∧ Instant.IsTellable now.unixNanoseconds ∧
      (Quota.mk 5000 1 0 ahead.text).untilReset now = .ok ⟨1000000007⟩ ∧
      (Quota.mk 60 1 0 universal.text).untilReset now = .ok ⟨1000000007⟩ ∧
      (Quota.mk 5000 1 0 ahead.text).untilReset later = .ok ⟨2⟩ := by
  intro ahead universal now later
  obtain ⟨reset, hreset, hwait, hothers, -⟩ := wait_lasts_until_reset ahead 5000 1 0
  have hahead : ahead.Denotes 1709249400000000007 :=
    ⟨19783, Date.counts_iff.2 (by decide +kernel), by decide +kernel⟩
  have huniversal : universal.Denotes 1709249400000000007 :=
    ⟨19782, Date.counts_iff.2 (by decide +kernel), by decide +kernel⟩
  obtain rfl := (hreset _).1 hahead
  have hspan : (max 0 (1709249400000000007 - now.unixNanoseconds)).toNat = 1000000007 := by
    decide +kernel
  have hlaterSpan : (max 0 (1709249400000000007 - later.unixNanoseconds)).toNat = 2 := by
    decide +kernel
  have hnow := hwait now rfl
  have hsame := hothers (Quota.mk 60 1 0 universal.text) universal rfl huniversal now rfl
  have hlater := hwait later rfl
  rw [hspan] at hnow
  rw [hlaterSpan] at hlater
  have htellable : Instant.IsTellable now.unixNanoseconds :=
    ⟨by decide +kernel, by decide +kernel⟩
  exact ⟨by decide +kernel, by decide +kernel, rfl, rfl, by decide +kernel, htellable, hnow,
    hsame.trans hnow, hlater⟩

end Payload.Quota
end RepoWatch
