import RepoWatch.Time.Instant
/-!
# Elapsed time

Where no leap second is involved, moments are told apart by the nanoseconds since the beginning of
1970: the differences of moments are the differences of these numbers.
-/

namespace RepoWatch

namespace Span

theorem le_millisecondsUp (s : Span) : s.nanoseconds ≤ s.millisecondsUp * perMillisecond := by
  unfold millisecondsUp perMillisecond
  omega

end Span

namespace Instant

/-- The nanoseconds since the beginning of 1970. -/
def unixNanoseconds (i : Instant) : Int := i.unixSeconds * Span.perSecond + i.nanosecond

theorem unixSeconds_ofUnix (seconds : Int) (nanosecond : Nat) :
    (ofUnix seconds nanosecond).unixSeconds = seconds := by
  have hday : (0 : Int) < (secondsPerDay : Nat) := by decide
  have hsecond : 0 ≤ seconds.fmod (secondsPerDay : Nat) := Int.fmod_nonneg_of_pos _ hday
  have hsplit := Int.mul_fdiv_add_fmod seconds (secondsPerDay : Nat)
  unfold unixSeconds ofUnix
  dsimp only
  rw [Int.toNat_of_nonneg hsecond, Int.mul_comm]
  exact hsplit

theorem unixNanoseconds_ofUnix (seconds : Int) (nanosecond : Nat) :
    (ofUnix seconds nanosecond).unixNanoseconds = seconds * Span.perSecond + nanosecond := by
  rw [unixNanoseconds, unixSeconds_ofUnix]
  rfl

theorem unixNanoseconds_addMilliseconds (i : Instant) (n : Nat) :
    (i.addMilliseconds n).unixNanoseconds = i.unixNanoseconds + (n * Span.perMillisecond : Nat) := by
  have hsplit := Nat.div_add_mod (i.nanosecond + n * Span.perMillisecond) Span.perSecond
  unfold unixNanoseconds addMilliseconds
  rw [unixSeconds_ofUnix]
  simp only [ofUnix, Span.perSecond, Span.perMillisecond] at hsplit ⊢
  omega

theorem inLeapSecond_addMilliseconds (i : Instant) (n : Nat) :
    (i.addMilliseconds n).inLeapSecond = false :=
  decide_eq_false (Nat.not_le.2 (Nat.mod_lt _ (by decide)))

theorem leapBetween_eq_zero {later earlier : Instant} (hlater : later.inLeapSecond = false)
    (hearlier : earlier.inLeapSecond = false) : later.leapBetween earlier = 0 := by
  simp [leapBetween, hlater, hearlier]

theorem nanosecondsSince_eq {later earlier : Instant} (hlater : later.inLeapSecond = false)
    (hearlier : earlier.inLeapSecond = false) :
    later.nanosecondsSince earlier = later.unixNanoseconds - earlier.unixNanoseconds := by
  rw [nanosecondsSince, leapBetween_eq_zero hlater hearlier]
  simp only [unixNanoseconds, Span.perSecond]
  omega

/-- How long it takes until a moment is the time that lies between, and nothing afterwards. -/
theorem spanFrom_eq {moment now : Instant} (hmoment : moment.inLeapSecond = false)
    (hnow : now.inLeapSecond = false) :
    ((moment.spanFrom now).nanoseconds : Int) =
      max 0 (moment.unixNanoseconds - now.unixNanoseconds) := by
  simp only [spanFrom, nanosecondsSince_eq hmoment hnow]
  omega

end Instant
end RepoWatch
