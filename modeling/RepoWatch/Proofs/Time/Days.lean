import Mathlib.Algebra.Order.Group.Nat
import Mathlib.Tactic.IntervalCases
import RepoWatch.Time.Calendar
/-!
# Counting days

The number of a date is what one gets by counting from day to day, forwards or backwards, from the
first of January 1970 on. Of the calendar such a count needs only to know which day follows which.
-/

namespace RepoWatch

def daysInYear (year : Nat) : Nat := if isLeapYear year then 366 else 365

theorem daysInMonth_pos {year month : Nat} (hlow : 1 ≤ month) (hhigh : month ≤ 12) :
    0 < daysInMonth year month := by
  interval_cases month <;> simp only [daysInMonth] <;> grind

theorem daysInMonth_eq_zero {year month : Nat} (h : month = 0 ∨ 12 < month) :
    daysInMonth year month = 0 := by
  unfold daysInMonth
  split <;> omega

namespace Date

variable {d later earlier : Date} {n : Int}

/-- One date is the day after another. -/
inductive Follows (later earlier : Date) : Prop where
  | inMonth (hyear : later.year = earlier.year) (hmonth : later.month = earlier.month)
      (hday : later.day = earlier.day + 1) : Follows later earlier
  | newMonth (hyear : later.year = earlier.year) (hmonth : later.month = earlier.month + 1)
      (hlast : earlier.day = daysInMonth earlier.year earlier.month) (hfirst : later.day = 1) :
      Follows later earlier
  | newYear (hyear : later.year = earlier.year + 1) (hdecember : earlier.month = 12)
      (hlast : earlier.day = 31) (hjanuary : later.month = 1) (hfirst : later.day = 1) :
      Follows later earlier

/-- A date is so many days after the first of January 1970; before it, when the number is
negative. -/
inductive Counts : Date → Int → Prop where
  | epoch {d : Date} (hyear : d.year = 1970) (hmonth : d.month = 1) (hday : d.day = 1) : Counts d 0
  | after {later earlier : Date} {n : Int} (h : Counts earlier n) (hnext : later.Follows earlier) :
      Counts later (n + 1)
  | before {later earlier : Date} {n : Int} (h : Counts later n) (hnext : later.Follows earlier) :
      Counts earlier (n - 1)

/-! ## The number of a date counts days -/

/-- How many multiples of a number come before a year, and whether the year is one. -/
theorem multiples_succ (year k : Nat) :
    (year + 1 + k) / (k + 1) = (year + k) / (k + 1) + if year % (k + 1) = 0 then 1 else 0 := by
  have hdvd : k + 1 ∣ year + k + 1 ↔ year % (k + 1) = 0 := by
    rw [Nat.add_assoc, Nat.dvd_add_left (Nat.dvd_refl _), Nat.dvd_iff_mod_eq_zero]
  rw [show year + 1 + k = year + k + 1 by omega, Nat.succ_div]
  simp only [hdvd]

theorem daysBeforeYear_succ (year : Nat) :
    daysBeforeYear (year + 1) = daysBeforeYear year + daysInYear year := by
  have hfour := multiples_succ year 3
  have hhundred := multiples_succ year 99
  have hfourHundred := multiples_succ year 399
  have hfewer : (year + 99) / 100 ≤ (year + 3) / 4 := by omega
  have hcentury : year % 400 = 0 → year % 100 = 0 := by omega
  have hleap : year % 100 = 0 → year % 4 = 0 := by omega
  simp only [daysBeforeYear, daysInYear, isLeapYear, decide_eq_true_eq]
  grind

theorem daysBeforeMonth_twelve (year : Nat) : daysBeforeMonth year 12 + 31 = daysInYear year := by
  unfold daysInYear
  by_cases hleap : isLeapYear year <;> simp [daysBeforeMonth, daysInMonth, hleap]

theorem dayNumber_of_follows (h : later.Follows earlier) :
    later.dayNumber = earlier.dayNumber + 1 := by
  have hpos := earlier.day_pos
  unfold dayNumber
  cases h with
  | inMonth hyear hmonth hday =>
      rw [hyear, hmonth, hday]
      omega
  | newMonth hyear hmonth hlast hfirst =>
      rw [hyear, hmonth, hfirst, daysBeforeMonth]
      omega
  | newYear hyear hdecember hlast hjanuary hfirst =>
      have hnew := daysBeforeYear_succ earlier.year
      have hmonths := daysBeforeMonth_twelve earlier.year
      have hnone : daysBeforeMonth (earlier.year + 1) 1 = 0 := rfl
      rw [hyear, hdecember, hlast, hjanuary, hfirst, hnone]
      omega

theorem Counts.eq_dayNumber (h : d.Counts n) : n = d.dayNumber := by
  induction h with
  | epoch hyear hmonth hday =>
      unfold dayNumber
      rw [hyear, hmonth, hday]
      rfl
  | after _ hnext ih => rw [dayNumber_of_follows hnext, ih]
  | before _ hnext ih =>
      have hnumber := dayNumber_of_follows hnext
      omega

/-! ## Every date is reached by counting -/

theorem month_mem (d : Date) : 1 ≤ d.month ∧ d.month ≤ 12 := by
  have hpos := d.day_pos
  have hle := d.day_le
  by_contra hnot
  rw [daysInMonth_eq_zero (by omega)] at hle
  omega

/-- The first day of year zero. -/
def beginning : Date := ⟨0, 1, 1, by decide, by decide⟩

/-- Every other date has a day before it. -/
theorem exists_follows (d : Date) : d = beginning ∨ ∃ earlier, d.Follows earlier := by
  obtain ⟨hlow, hhigh⟩ := d.month_mem
  have hpos := d.day_pos
  have hle := d.day_le
  by_cases hday : d.day = 1
  · by_cases hmonth : d.month = 1
    · by_cases hyear : d.year = 0
      · left
        obtain ⟨year, month, day, _, _⟩ := d
        dsimp only at hday hmonth hyear
        subst hday hmonth hyear
        rfl
      · right
        refine ⟨⟨d.year - 1, 12, 31, by decide, Nat.le_refl _⟩, ?_⟩
        exact .newYear (by dsimp only; omega) rfl rfl hmonth hday
    · right
      refine ⟨⟨d.year, d.month - 1, daysInMonth d.year (d.month - 1),
        daysInMonth_pos (by omega) (by omega), Nat.le_refl _⟩, ?_⟩
      exact .newMonth rfl (by dsimp only; omega) rfl hday
  · right
    refine ⟨⟨d.year, d.month, d.day - 1, by omega, by omega⟩, ?_⟩
    exact .inMonth rfl rfl (by dsimp only; omega)

theorem counts_iff_of_follows (h : later.Follows earlier) :
    later.Counts later.dayNumber ↔ earlier.Counts earlier.dayNumber := by
  have hnumber := dayNumber_of_follows h
  constructor
  · intro hlater
    rw [show earlier.dayNumber = later.dayNumber - 1 by omega]
    exact hlater.before h
  · intro hearlier
    rw [hnumber]
    exact hearlier.after h

theorem neg_epoch_le_dayNumber (d : Date) : -(epoch : Int) ≤ d.dayNumber := by
  unfold dayNumber
  omega

/-- A count may begin at any date. -/
theorem counts_iff_beginning (d : Date) :
    d.Counts d.dayNumber ↔ beginning.Counts beginning.dayNumber := by
  -- on the number of days since the beginning of year zero
  induction hdays : (d.dayNumber + epoch).toNat generalizing d with
  | zero =>
      rcases d.exists_follows with rfl | ⟨earlier, hfollows⟩
      · exact Iff.rfl
      · have hnumber := dayNumber_of_follows hfollows
        have hlow := earlier.neg_epoch_le_dayNumber
        omega
  | succ days ih =>
      rcases d.exists_follows with rfl | ⟨earlier, hfollows⟩
      · exact Iff.rfl
      · have hnumber := dayNumber_of_follows hfollows
        exact (counts_iff_of_follows hfollows).trans (ih earlier (by omega))

theorem counts_iff : d.Counts n ↔ n = d.dayNumber := by
  constructor
  · exact Counts.eq_dayNumber
  · rintro rfl
    let start : Date := ⟨1970, 1, 1, by decide, by decide⟩
    have hstart : start.Counts 0 := .epoch rfl rfl rfl
    rw [hstart.eq_dayNumber] at hstart
    exact d.counts_iff_beginning.2 (start.counts_iff_beginning.1 hstart)

theorem daysBeforeMonth_le (year : Nat) {month : Nat} (h : month ≤ 12) :
    daysBeforeMonth year month ≤ 335 := by
  interval_cases month <;> simp [daysBeforeMonth, daysInMonth] <;> grind

theorem day_le_31 (d : Date) : d.day ≤ 31 := by
  have hle := d.day_le
  unfold daysInMonth at hle
  grind

theorem dayNumber_le (d : Date) : d.dayNumber ≤ 366 * (d.year + 1) - epoch := by
  have hmonth := daysBeforeMonth_le d.year d.month_mem.2
  have hday := d.day_le_31
  have hyear : daysBeforeYear d.year ≤ 366 * d.year := by
    unfold daysBeforeYear
    omega
  unfold dayNumber
  omega

end Date
end RepoWatch
