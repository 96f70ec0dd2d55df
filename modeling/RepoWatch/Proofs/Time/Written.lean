import Mathlib.Data.Nat.Digits.Defs
import RepoWatch.Proofs.Time.Days
import RepoWatch.Proofs.Time.Elapsed
import RepoWatch.Time.Timestamp
/-!
# Written moments

A moment as it can be written: a date with a year of four digits, a separator, a time of day with or
without a fraction, and an offset from universal time. What is read from such a text is the moment
that it denotes, however it is written and however long the fraction is.
-/

namespace RepoWatch.Timestamp

/-- The last digits of a number, so many of them. -/
def decimal : Nat → Nat → List Char
  | 0, _ => []
  | width + 1, n => decimal width (n / 10) ++ [Nat.digitChar (n % 10)]

/-- What stands between a date and a time of day. -/
inductive Separator where
  | upper
  | lower
  | blank

def Separator.char : Separator → Char
  | .upper => 'T'
  | .lower => 't'
  | .blank => ' '

/-- How far a clock is from universal time, as it is written. -/
inductive Zone where
  | universal (upper : Bool)
  | ahead (hours : Fin 24) (minutes : Fin 60)
  | behind (hours : Fin 24) (minutes : Fin 60)

namespace Zone

def chars : Zone → List Char
  | .universal upper => [if upper then 'Z' else 'z']
  | .ahead hours minutes => '+' :: (decimal 2 hours ++ ':' :: decimal 2 minutes)
  | .behind hours minutes => '-' :: (decimal 2 hours ++ ':' :: decimal 2 minutes)

def minutes : Zone → Int
  | .universal _ => 0
  | .ahead hours minutes => hours.val * 60 + minutes.val
  | .behind hours minutes => -(hours.val * 60 + minutes.val)

end Zone

structure Written where
  date : Date
  year_lt : date.year < 10000
  separator : Separator
  hour : Fin 24
  minute : Fin 60
  second : Fin 60
  /-- The digits of the fraction; without any there is no point either. -/
  fraction : List (Fin 10)
  zone : Zone

/-- A fraction with its point. -/
def fractionChars : List (Fin 10) → List Char
  | [] => []
  | first :: digits => '.' :: (first :: digits).map fun d => Nat.digitChar d.val

/-- A fraction of a second in nanoseconds; what is less than one is cut off. -/
def nanosecondsOf (fraction : List (Fin 10)) : Nat :=
  Nat.ofDigits 10 (fraction.map Fin.val).reverse * Span.perSecond / 10 ^ fraction.length

namespace Written

def chars (w : Written) : List Char :=
  decimal 4 w.date.year ++ '-' :: (decimal 2 w.date.month ++ '-' :: (decimal 2 w.date.day ++
    w.separator.char :: (decimal 2 w.hour ++ ':' :: (decimal 2 w.minute ++ ':' ::
      (decimal 2 w.second ++ (fractionChars w.fraction ++ w.zone.chars))))))

def text (w : Written) : String := String.ofList w.chars

/-- The moment that is written lies so many nanoseconds after the beginning of 1970: the days up to
the date and the time of day, without what clocks there are ahead of universal time. -/
def Denotes (w : Written) (nanoseconds : Int) : Prop :=
  ∃ days, w.date.Counts days ∧
    nanoseconds = (((days * 24 + w.hour.val) * 60 + w.minute.val - w.zone.minutes) * 60
      + w.second.val) * Span.perSecond + nanosecondsOf w.fraction

end Written

/-! ## Digits -/

theorem digit_digitChar : (n : Fin 10) → digit (Nat.digitChar n) = .ok n.val := by decide

theorem toNat_digitChar : (n : Fin 10) → (Nat.digitChar n).toNat - '0'.toNat = n.val := by decide

theorem decimal_two (n : Nat) :
    decimal 2 n = [Nat.digitChar (n / 10 % 10), Nat.digitChar (n % 10)] := rfl

theorem decimal_four (n : Nat) :
    decimal 4 n = decimal 2 (n / 100) ++ decimal 2 n := by
  simp [decimal, Nat.div_div_eq_div_mul]

theorem twoDigits_digitChar (n : Nat) :
    twoDigits (Nat.digitChar (n / 10 % 10)) (Nat.digitChar (n % 10)) = .ok (n % 100) := by
  have htens := digit_digitChar ⟨n / 10 % 10, Nat.mod_lt _ (by decide)⟩
  have hones := digit_digitChar ⟨n % 10, Nat.mod_lt _ (by decide)⟩
  have hvalue : n / 10 % 10 * 10 + n % 10 = n % 100 := by omega
  dsimp only at htens hones
  simp only [twoDigits, htens, hones, bind, Except.bind, pure, Except.pure, hvalue]

/-! ## Offsets -/

theorem offsetBody_chars (hours : Fin 24) (minutes : Fin 60) :
    offsetBody (decimal 2 hours ++ ':' :: decimal 2 minutes) =
      .ok (hours.val * 3600 + minutes.val * 60, []) := by
  have hhours : hours.val % 100 = hours.val := Nat.mod_eq_of_lt (by omega)
  have hminutes : minutes.val % 100 = minutes.val := Nat.mod_eq_of_lt (by omega)
  simp [decimal_two, offsetBody, expect, offsetMinutes, twoDigits_digitChar, hhours, hminutes, bind,
    Except.bind, pure, Except.pure]

theorem offset_cons {c : Char} {sign : Int} (hsign : offsetSign c = .ok sign) (hours : Fin 24)
    (minutes : Fin 60) :
    offset (c :: (decimal 2 hours ++ ':' :: decimal 2 minutes)) =
      .ok (sign * (hours.val * 3600 + minutes.val * 60 : Nat), []) := by
  unfold offset
  split
  · contradiction
  · simp_all [offsetSign]
  · simp_all [offsetSign]
  · rename_i hcons
    obtain ⟨rfl, rfl⟩ := List.cons.inj hcons
    rw [hsign, offsetBody_chars]
    rfl

theorem offset_chars (zone : Zone) : offset zone.chars = .ok (zone.minutes * 60, []) := by
  cases zone with
  | universal upper => cases upper <;> rfl
  | ahead hours minutes =>
      have hsign : offsetSign '+' = .ok 1 := rfl
      rw [Zone.chars, offset_cons hsign, Zone.minutes]
      congr 2
      omega
  | behind hours minutes =>
      have hsign : offsetSign '-' = .ok (-1) := rfl
      rw [Zone.chars, offset_cons hsign, Zone.minutes]
      congr 2
      omega

theorem Zone.natAbs_minutes_lt (zone : Zone) : (zone.minutes * 60).natAbs < Instant.secondsPerDay := by
  unfold Instant.secondsPerDay
  cases zone <;> simp only [Zone.minutes] <;> omega

/-! ## Fractions -/

theorem takeWhile_isDigit (fraction : List (Fin 10)) {rest : List Char}
    (hrest : ∀ c ∈ rest.head?, c.isDigit = false) :
    ((fraction.map fun d => Nat.digitChar d.val) ++ rest).takeWhile Char.isDigit =
      fraction.map fun d => Nat.digitChar d.val := by
  induction fraction with
  | nil => cases rest <;> simp_all
  | cons d fraction ih => simp [ih]

theorem dropWhile_isDigit (fraction : List (Fin 10)) {rest : List Char}
    (hrest : ∀ c ∈ rest.head?, c.isDigit = false) :
    ((fraction.map fun d => Nat.digitChar d.val) ++ rest).dropWhile Char.isDigit = rest := by
  induction fraction with
  | nil => cases rest <;> simp_all
  | cons d fraction ih => simp [ih]

/-- The number that digits stand for, the first one being the greatest. -/
def value (digits : List (Fin 10)) : Nat := Nat.ofDigits 10 (digits.map Fin.val).reverse

theorem value_append (digits more : List (Fin 10)) :
    value (digits ++ more) = value more + 10 ^ more.length * value digits := by
  simp [value, Nat.ofDigits_append]

theorem value_lt (digits : List (Fin 10)) : value digits < 10 ^ digits.length := by
  have hlt := Nat.ofDigits_lt_base_pow_length (b := 10) (l := (digits.map Fin.val).reverse)
    (by decide) (by simp)
  simpa [value] using hlt

theorem foldl_digits (digits : List (Fin 10)) :
    (digits.map fun d => Nat.digitChar d.val).foldl
      (fun n c => n * 10 + (c.toNat - '0'.toNat)) 0 = value digits := by
  rw [value, Nat.ofDigits_eq_foldr, List.foldr_reverse, List.foldl_map, List.foldl_map]
  simp only [toNat_digitChar]
  simp [Nat.add_comm, Nat.mul_comm]

/-- The first nine digits of a fraction, followed by zeros, are its whole nanoseconds. -/
theorem value_take_nine (fraction : List (Fin 10)) :
    value ((fraction ++ List.replicate 9 0).take 9) = nanosecondsOf fraction := by
  let filled := fraction ++ List.replicate 9 0
  have hfilled : value filled = value fraction * Span.perSecond := by
    rw [value_append, List.length_replicate, Nat.mul_comm]
    exact Nat.zero_add _
  have hsplit := value_append (filled.take 9) (filled.drop 9)
  have hlength : (filled.drop 9).length = fraction.length := by simp [filled]
  have hlt := value_lt (filled.drop 9)
  rw [List.take_append_drop, hfilled, hlength] at hsplit
  rw [hlength] at hlt
  have hpos : 0 < 10 ^ fraction.length := Nat.pow_pos (by decide)
  calc value (filled.take 9)
      = (value (filled.drop 9) + 10 ^ fraction.length * value (filled.take 9))
          / 10 ^ fraction.length := by
        rw [Nat.add_mul_div_left _ _ hpos, Nat.div_eq_of_lt hlt, Nat.zero_add]
    _ = nanosecondsOf fraction := by rw [← hsplit, nanosecondsOf, value]

theorem fraction_chars {fraction : List (Fin 10)} (hne : fraction ≠ []) {rest : List Char}
    (hrest : ∀ c ∈ rest.head?, c.isDigit = false) :
    Timestamp.fraction ((fraction.map fun d => Nat.digitChar d.val) ++ rest) =
      .ok (nanosecondsOf fraction, rest) := by
  have hzeros : List.replicate 9 '0' =
      (List.replicate 9 (0 : Fin 10)).map fun d => Nat.digitChar d.val := rfl
  have hdigits : (fraction.map fun d => Nat.digitChar d.val).isEmpty = false := by simpa using hne
  unfold Timestamp.fraction
  simp only [takeWhile_isDigit fraction hrest, dropWhile_isDigit fraction hrest, hdigits]
  rw [hzeros, ← List.map_append, ← List.map_take, foldl_digits, value_take_nine]
  rfl

/-- Neither a digit nor a point begins an offset. -/
theorem head_zone (zone : Zone) : ∀ c ∈ zone.chars.head?, c.isDigit = false ∧ c ≠ '.' := by
  rcases zone with (_ | _) | _ | _ <;> simp [Zone.chars]

theorem optionalFraction_chars (fraction : List (Fin 10)) (zone : Zone) :
    optionalFraction (fractionChars fraction ++ zone.chars) =
      .ok (nanosecondsOf fraction, zone.chars) := by
  cases fraction with
  | nil => rcases zone with (_ | _) | _ | _ <;> rfl
  | cons first digits =>
      exact fraction_chars (List.cons_ne_nil first digits) fun c hc => (head_zone zone c hc).1

/-! ## Texts -/

theorem length_le_utf8ByteSize (cs : List Char) : cs.length ≤ (String.ofList cs).utf8ByteSize := by
  induction cs with
  | nil => exact Nat.zero_le _
  | cons c cs ih =>
      have hpos := c.utf8Size_pos
      simp only [List.length_cons, String.ofList_cons, String.utf8ByteSize_append,
        String.utf8ByteSize_singleton]
      omega

namespace Written

variable (w : Written)

theorem fixedLength_le : fixedLength ≤ w.text.utf8ByteSize := by
  refine Nat.le_trans ?_ (length_le_utf8ByteSize w.chars)
  simp [chars, decimal_four, decimal_two, fixedLength]

/-- The time of day that is written. -/
def timeOfDay : TimeOfDay :=
  ⟨w.hour.val * 3600 + w.minute.val * 60 + w.second.val, nanosecondsOf w.fraction⟩

theorem date_of? : Date.of? w.date.year w.date.month w.date.day = some w.date :=
  dif_pos ⟨w.date.day_pos, w.date.day_le⟩

theorem timeOfDay_of? :
    TimeOfDay.of? w.hour w.minute w.second (nanosecondsOf w.fraction) = some w.timeOfDay := by
  have hsecond : w.second.val ≠ 60 := by omega
  simp [TimeOfDay.of?, hsecond, timeOfDay]

/-- What is read is what is written. -/
theorem read_text :
    read w.text = .ok (moment w.date w.timeOfDay (w.zone.minutes * 60)) := by
  have hyear := w.year_lt
  have hmonths := w.date.month_mem
  have hdays := w.date.day_le_31
  have hcentury : w.date.year / 100 % 100 * 100 + w.date.year % 100 = w.date.year := by omega
  have hmonth : w.date.month % 100 = w.date.month := Nat.mod_eq_of_lt (by omega)
  have hday : w.date.day % 100 = w.date.day := Nat.mod_eq_of_lt (by omega)
  have hhour : w.hour.val % 100 = w.hour.val := Nat.mod_eq_of_lt (by omega)
  have hminute : w.minute.val % 100 = w.minute.val := Nat.mod_eq_of_lt (by omega)
  have hsecond : w.second.val % 100 = w.second.val := Nat.mod_eq_of_lt (by omega)
  have hseparator : w.separator.char ∈ ['t', 'T', ' '] := by
    cases w.separator <;> simp [Separator.char]
  unfold read
  rw [if_neg (Nat.not_lt.2 w.fixedLength_le), text, String.toList_ofList, chars]
  simp only [decimal_four, decimal_two, List.cons_append, List.nil_append, twoDigits_digitChar,
    expect, hseparator, hcentury, hmonth, hday, hhour, hminute, hsecond, w.date_of?,
    optionalFraction_chars, w.timeOfDay_of?, offset_chars, w.zone.natAbs_minutes_lt, bind,
    Except.bind, pure, Except.pure, List.mem_singleton, if_true, List.isEmpty_nil, Bool.not_true]
  rfl

end Written
end RepoWatch.Timestamp
