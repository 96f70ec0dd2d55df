/-!
# Finite binary64 numbers

A number is kept as its sign and the bits of its absolute value, so that infinities and
not-a-numbers cannot be written down and equality is an equivalence. Arithmetic is exact on
natural numbers and rounds once, to the nearest number, ties to the even significand.
-/

namespace RepoWatch

/-- The significand bit that is not stored: the least significand of 53 bits. -/
def Double.hiddenBit : Nat := 0x10000000000000

structure Double where
  negative : Bool
  /-- The bits below the sign bit; they grow with the absolute value. -/
  magnitude : Nat
  finite : magnitude < 2047 * Double.hiddenBit
deriving DecidableEq

namespace Double

/-- The whole number that the significand bits stand for, hidden bit included. -/
def significand (d : Double) : Nat :=
  if d.magnitude < hiddenBit then d.magnitude else hiddenBit + d.magnitude % hiddenBit

/-- The power of two by which the significand is scaled. -/
def exponent (d : Double) : Int :=
  if d.magnitude < hiddenBit then -1074 else (d.magnitude / hiddenBit : Nat) - 1075

/-- Zero, with either sign. -/
def zero (negative : Bool) : Double := ⟨negative, 0, by decide⟩

/-- The same absolute value with the given sign. -/
def withSign (negative : Bool) (d : Double) : Double := { d with negative }

/-- Numeric equality: the two zeros are equal. -/
def numEq (a b : Double) : Bool :=
  a.magnitude == b.magnitude && (a.negative == b.negative || a.magnitude == 0)

/-- The fraction `num / den` divided by `2 ^ e`, as a fraction of natural numbers. -/
private def unscale (num den : Nat) (e : Int) : Nat × Nat :=
  if 0 ≤ e then (num, den <<< e.toNat) else (num <<< (-e).toNat, den)

/-- The exponent at which the quotient has 53 significant bits, or the least exponent. -/
private def roundingExponent (num den : Nat) : Int :=
  let low : Int := max (-1074) ((num.log2 : Int) - den.log2 - 53)
  let scaled := unscale num den low
  if scaled.1 / scaled.2 < 2 * hiddenBit then low else low + 1

/-- The quotient rounded to a whole number, a tie to the even one. -/
def roundDiv (num den : Nat) : Nat :=
  let q := num / den
  let twice := 2 * (num % den)
  if twice < den ∨ (twice = den ∧ q % 2 = 0) then q else q + 1

/-- The number nearest to `num / den`; nothing when that is beyond the largest one. -/
def nearest? (negative : Bool) (num den : Nat) : Option Double :=
  if num = 0 then some (zero negative)
  else
    let e := roundingExponent num den
    let scaled := unscale num den e
    let magnitude := (e + 1074).toNat * hiddenBit + roundDiv scaled.1 scaled.2
    if h : magnitude < 2047 * hiddenBit then some ⟨negative, magnitude, h⟩ else none

/-- The absolute value as a fraction of natural numbers. -/
def fraction (d : Double) : Nat × Nat :=
  if 0 ≤ d.exponent then (d.significand <<< d.exponent.toNat, 1)
  else (d.significand, 1 <<< (-d.exponent).toNat)

/-- The rounded product; nothing on overflow. -/
def mul? (a b : Double) : Option Double :=
  nearest? (a.negative != b.negative)
    (a.fraction.1 * b.fraction.1) (a.fraction.2 * b.fraction.2)

/-- The rounded quotient by a number that is not zero; nothing on overflow. -/
def div? (a b : Double) : Option Double :=
  nearest? (a.negative != b.negative)
    (a.fraction.1 * b.fraction.2) (a.fraction.2 * b.fraction.1)

/-- The number nearest to a power of ten, for exponents up to 308. -/
def powerOfTen? (n : Nat) : Option Double := nearest? false (Nat.pow 10 n) 1

/-- Scales a number by a power of ten, one rounded operation per factor; the factor of a step
is at most `10 ^ 308`, and a scale above that overflows unless the number is zero. -/
def scale10? (d : Double) (exponent : Int) : Option Double :=
  if 308 < exponent then if d.magnitude = 0 then some d else none
  else if 0 ≤ exponent then do d.mul? (← powerOfTen? exponent.toNat)
  else if -308 ≤ exponent then do d.div? (← powerOfTen? (-exponent).toNat)
  else if d.magnitude = 0 then some d
  else do
    let reduced ← d.div? (← powerOfTen? 308)
    scale10? reduced (exponent + 308)
termination_by (-exponent).toNat

/-- The number that a decimal numeral denotes: the rounded significand, scaled. -/
def ofDecimal? (negative : Bool) (significand : Nat) (exponent : Int) : Option Double := do
  let whole ← nearest? false significand 1
  return (← whole.scale10? exponent).withSign negative

theorem numEq_refl (d : Double) : d.numEq d = true := by simp [numEq]

theorem numEq_comm (a b : Double) : a.numEq b = b.numEq a := by
  rw [Bool.eq_iff_iff]
  simp only [numEq, Bool.and_eq_true, Bool.or_eq_true, beq_iff_eq]
  grind

end Double
end RepoWatch
