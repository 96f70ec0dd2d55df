import RepoWatch.Json.Double
/-!
# Shortest decimals

The shortest decimal numeral that reads back as a given binary number: the fewest significant
digits for which some numeral lies in the interval of reals that round to the number, and of the
numerals with that many digits the one nearest to the number itself.
-/

namespace RepoWatch

/-- The decimal number `digits * 10 ^ exponent`. -/
structure Decimal where
  digits : Nat
  exponent : Int
deriving DecidableEq, Repr

namespace Decimal

/-- The interval of reals that round to a number, on the common denominator `unit`. -/
structure Interval where
  low : Nat
  value : Nat
  high : Nat
  unit : Nat
  /-- Whether the ends belong to the interval. -/
  closed : Bool

/-- Half the gap to each neighbour; the gap below a power of two is half as wide. -/
def Interval.ofDouble (d : Double) : Interval :=
  let m := d.significand
  let below := if m = Double.hiddenBit ∧ -1074 < d.exponent then 1 else 2
  let q := d.exponent - 2
  let scale := Nat.pow 2 q.toNat
  { low := (4 * m - below) * scale
    value := 4 * m * scale
    high := (4 * m + 2) * scale
    unit := Nat.pow 2 (-q).toNat
    closed := m % 2 = 0 }

/-- The interval on the grid of the multiples of `10 ^ k`. -/
def Interval.onGrid (i : Interval) (k : Int) : Interval :=
  let up := Nat.pow 10 (-k).toNat
  { i with low := i.low * up, value := i.value * up, high := i.high * up
           unit := i.unit * Nat.pow 10 k.toNat }

/-- Whether the grid point `p` rounds to the number. -/
def Interval.holds (i : Interval) (p : Nat) : Bool :=
  if i.closed then i.low ≤ p * i.unit ∧ p * i.unit ≤ i.high
  else i.low < p * i.unit ∧ p * i.unit < i.high

/-- The nearest grid point in the interval, a tie going to the even one. -/
def Interval.nearest? (i : Interval) : Option Nat :=
  let lower := i.value / i.unit
  let twice := 2 * (i.value % i.unit)
  let preferLower := twice < i.unit ∨ (twice = i.unit ∧ lower % 2 = 0)
  let order := if preferLower then [lower, lower + 1] else [lower + 1, lower]
  order.find? i.holds

/-- The exponent of the leading decimal digit of a positive fraction. -/
def leadingExponent (num den : Nat) : Int :=
  let guess : Int := (((num.log2 : Int) - den.log2) * 1233) / 4096
  let reaches (e : Int) : Bool := den * Nat.pow 10 e.toNat ≤ num * Nat.pow 10 (-e).toNat
  ([guess + 2, guess + 1, guess, guess - 1].find? reaches).getD (guess - 2)

def trim (d : Decimal) : Decimal :=
  if h : d.digits ≠ 0 ∧ d.digits % 10 = 0 then trim ⟨d.digits / 10, d.exponent + 1⟩ else d
termination_by d.digits
decreasing_by omega

/-- The shortest decimal that reads back as the absolute value of a number. -/
def shortest (d : Double) : Decimal :=
  if d.magnitude = 0 then ⟨0, 0⟩
  else
    let i := Interval.ofDouble d
    let lead := leadingExponent i.value i.unit
    let candidate (n : Nat) : Option Decimal :=
      let k := lead - n
      ((i.onGrid k).nearest?).map fun p => trim ⟨p, k⟩
    ((List.range 17).findSome? candidate).getD ⟨0, 0⟩

end Decimal
end RepoWatch
