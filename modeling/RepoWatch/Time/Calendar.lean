/-!
# The calendar

Dates of the Gregorian calendar from year zero on, the number of days from the first of January
1970 to a date, and the date with a number.
-/

namespace RepoWatch

def isLeapYear (year : Nat) : Bool := year % 4 = 0 ∧ (year % 100 ≠ 0 ∨ year % 400 = 0)

/-- The length of a month in days; zero for a number that is no month. -/
def daysInMonth (year month : Nat) : Nat :=
  match month with
  | 1 | 3 | 5 | 7 | 8 | 10 | 12 => 31
  | 4 | 6 | 9 | 11 => 30
  | 2 => if isLeapYear year then 29 else 28
  | _ => 0

structure Date where
  year : Nat
  month : Nat
  day : Nat
  day_pos : 0 < day
  day_le : day ≤ daysInMonth year month

namespace Date

/-- The date with the given numbers, if there is one. -/
def of? (year month day : Nat) : Option Date :=
  if h : 0 < day ∧ day ≤ daysInMonth year month then some ⟨year, month, day, h.1, h.2⟩ else none

def daysBeforeYear (year : Nat) : Nat :=
  365 * year + (year + 3) / 4 - (year + 99) / 100 + (year + 399) / 400

def daysBeforeMonth (year : Nat) : Nat → Nat
  | 0 => 0
  | month + 1 => daysBeforeMonth year month + daysInMonth year month

/-- The days from the beginning of year zero to the beginning of 1970. -/
def epoch : Nat := 719528

/-- The days from the first of January 1970 to a date. -/
def dayNumber (d : Date) : Int :=
  (daysBeforeYear d.year + daysBeforeMonth d.year d.month + (d.day - 1) : Nat) - epoch

/-- The year to which a day belongs that is counted from the beginning of year zero. The guess
that all years are equally long is at most one year off. -/
def yearOf (days : Nat) : Nat :=
  let guess := days * 400 / 146097
  if days < daysBeforeYear guess then guess - 1
  else if daysBeforeYear (guess + 1) ≤ days then guess + 1
  else guess

/-- The date of a day of the year, counted from zero, at or after a month. -/
def ofDayOfYear? (year : Nat) : List Nat → Nat → Option Date
  | [], _ => none
  | month :: months, days =>
    if days < daysInMonth year month then of? year month (days + 1)
    else ofDayOfYear? year months (days - daysInMonth year month)

/-- The date with a number of days since the first of January 1970; nothing before year zero. -/
def ofDayNumber? (number : Int) : Option Date :=
  if number + epoch < 0 then none
  else
    let days := (number + epoch).toNat
    ofDayOfYear? (yearOf days) (List.range' 1 12) (days - daysBeforeYear (yearOf days))

end Date
end RepoWatch
