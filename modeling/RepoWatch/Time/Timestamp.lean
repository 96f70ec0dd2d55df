import RepoWatch.Time.Calendar
import RepoWatch.Time.Instant
/-!
# Timestamps

Reads a moment written as a date, a time of day and an offset from universal time, such as
`2025-01-01T00:00:00.5+01:00`. The separator is `T`, `t` or a space, the offset `Z`, `z` or a
sign with hours and minutes. A fraction may have any number of digits; those beyond the ninth
are dropped. Second 60 is a leap second. Writes a moment in the same form, without a fraction.
-/

namespace RepoWatch.Timestamp

inductive Fault where
  | invalid
  | outOfRange
  | tooShort
  | tooLong
deriving DecidableEq, Repr

def Fault.message : Fault → String
  | .invalid => "input contains invalid characters"
  | .outOfRange => "input is out of range"
  | .tooShort => "premature end of input"
  | .tooLong => "trailing input"

def digit (c : Char) : Except Fault Nat :=
  if '0' ≤ c ∧ c ≤ '9' then .ok (c.toNat - '0'.toNat) else .error .invalid

def twoDigits (x y : Char) : Except Fault Nat := do return (← digit x) * 10 + (← digit y)

def expect (allowed : List Char) (c : Char) : Except Fault Unit :=
  if c ∈ allowed then .ok () else .error .invalid

/-- A time of day; the nanoseconds reach a billion in a leap second. -/
structure TimeOfDay where
  second : Nat
  nanosecond : Nat

/-- The time of day with the given numbers, if there is one. -/
def TimeOfDay.of? (hour minute second nanosecond : Nat) : Option TimeOfDay :=
  let (second, nanosecond) :=
    if second = 60 then (59, nanosecond + Span.perSecond) else (second, nanosecond)
  if hour < 24 ∧ minute < 60 ∧ second < 60 then
    some ⟨hour * 3600 + minute * 60 + second, nanosecond⟩
  else none

/-- The digits of a fraction as nanoseconds, and what follows them. -/
def fraction (cs : List Char) : Except Fault (Nat × List Char) :=
  let digits := cs.takeWhile Char.isDigit
  if digits.isEmpty then .error (if cs.isEmpty then .tooShort else .invalid)
  else
    let nine := (digits ++ List.replicate 9 '0').take 9
    let value := nine.foldl (fun n c => n * 10 + (c.toNat - '0'.toNat)) 0
    .ok (value, cs.dropWhile Char.isDigit)

/-- The fraction, if a point announces one. -/
def optionalFraction : List Char → Except Fault (Nat × List Char)
  | '.' :: rest => fraction rest
  | rest => .ok (0, rest)

/-- The direction of an offset: a plus, a hyphen or a minus sign announces it. -/
def offsetSign (c : Char) : Except Fault Int :=
  if c = '+' then .ok 1 else if c = '-' ∨ c = '\u2212' then .ok (-1) else .error .invalid

def offsetMinutes (x y : Char) : Except Fault Nat := do
  let minutes ← twoDigits x y
  if minutes < 60 then return minutes else throw .outOfRange

/-- The fault of a text that ends where two digits should stand: a character of more than one
byte is long enough for both. -/
def unfinished : List Char → Fault
  | [c] => if c.utf8Size < 2 then .tooShort else .invalid
  | _ => .tooShort

/-- The hours and minutes of an offset in seconds, and what follows them. -/
def offsetBody : List Char → Except Fault (Nat × List Char)
  | x :: y :: rest => do
    let hours ← twoDigits x y
    match rest with
    | [] => throw .tooShort
    | colon :: rest =>
      expect [':'] colon
      match rest with
      | x :: y :: rest => return (hours * 3600 + (← offsetMinutes x y) * 60, rest)
      | rest => throw (unfinished rest)
  | rest => .error (unfinished rest)

/-- The offset in seconds, and what follows it. -/
def offset : List Char → Except Fault (Int × List Char)
  | [] => .error .tooShort
  | 'Z' :: rest | 'z' :: rest => .ok (0, rest)
  | c :: rest => do
    let sign ← offsetSign c
    let (seconds, rest) ← offsetBody rest
    return (sign * seconds, rest)

/-- The moment at which clocks with the given offset show a date and time. -/
def moment (date : Date) (time : TimeOfDay) (offset : Int) : Instant :=
  .ofUnix (date.dayNumber * Instant.secondsPerDay + time.second - offset) time.nanosecond

/-- The bytes of a date and a time of day without fraction. -/
def fixedLength : Nat := 19

def read (text : String) : Except Fault Instant :=
  if text.utf8ByteSize < fixedLength then .error .tooShort
  else
    match text.toList with
    | y₁ :: y₂ :: y₃ :: y₄ :: h₁ :: m₁ :: m₂ :: h₂ :: d₁ :: d₂ :: rest => do
      let century ← twoDigits y₁ y₂
      let year := century * 100 + (← twoDigits y₃ y₄)
      expect ['-'] h₁
      let month ← twoDigits m₁ m₂
      expect ['-'] h₂
      let day ← twoDigits d₁ d₂
      let some date := Date.of? year month day | throw .outOfRange
      match rest with
      | s :: h₁ :: h₂ :: c₁ :: m₁ :: m₂ :: c₂ :: s₁ :: s₂ :: rest =>
        expect ['t', 'T', ' '] s
        let hour ← twoDigits h₁ h₂
        expect [':'] c₁
        let minute ← twoDigits m₁ m₂
        expect [':'] c₂
        let second ← twoDigits s₁ s₂
        let (nanosecond, rest) ← optionalFraction rest
        let some time := TimeOfDay.of? hour minute second nanosecond | throw .outOfRange
        let (offset, rest) ← offset rest
        if !rest.isEmpty then throw .tooLong
        if offset.natAbs < Instant.secondsPerDay then return moment date time offset
        else throw .outOfRange
      | _ => throw .invalid
    | _ => .error .invalid

def padded (width n : Nat) : String :=
  let digits := toString n
  String.ofList (List.replicate (width - digits.length) '0') ++ digits

/-- The text of a moment, cut to the second; nothing when its year does not have four digits. -/
def write? (i : Instant) : Option String := do
  let date ← Date.ofDayNumber? i.day
  if 10000 ≤ date.year then none
  let clock := [i.second / 3600, i.second / 60 % 60, i.second % 60].map (padded 2)
  return padded 4 date.year ++ "-" ++ padded 2 date.month ++ "-" ++ padded 2 date.day ++ "T"
    ++ ":".intercalate clock ++ "Z"

end RepoWatch.Timestamp
