/-!
# Punycode

Writes a label of a domain name that is not ASCII with ASCII letters and digits (RFC 3492): its
ASCII characters first, then, in the order of their code points, where the others stand. Positions
are written as differences in a notation whose digits have weights that adapt.
-/

namespace RepoWatch.Web.Punycode

def base : Nat := 36

/-- The least and the greatest threshold below which a digit is the last one. -/
def leastThreshold : Nat := 1

@[inherit_doc leastThreshold] def greatestThreshold : Nat := 26

/-- A digit: a letter, or from 26 on a decimal digit. -/
def digit (n : Nat) : Char :=
  if n < 26 then Char.ofNat ('a'.toNat + n) else Char.ofNat ('0'.toNat + (n - 26))

/-- The threshold of the digit at a position, which counts in steps of the base. -/
def threshold (bias position : Nat) : Nat :=
  min greatestThreshold (max leastThreshold (position - bias))

theorem threshold_pos (bias position : Nat) : 0 < threshold bias position := by
  simp only [threshold, greatestThreshold, leastThreshold]
  omega

/-- Writes a number from the digit at a position on. -/
def number (bias position n : Nat) : List Char :=
  let t := threshold bias position
  if _h : n < t then [digit n]
  else digit (t + (n - t) % (base - t)) :: number bias (position + base) ((n - t) / (base - t))
termination_by n
decreasing_by
  have hpos := threshold_pos bias position
  exact Nat.lt_of_le_of_lt (Nat.div_le_self _ _) (by omega)

/-- Divides a difference until it is small, counting in steps of the base. -/
def settleBias (delta steps : Nat) : Nat :=
  if h : 455 < delta then settleBias (delta / 35) (steps + base)
  else steps + 36 * delta / (delta + 38)
termination_by delta
decreasing_by exact Nat.div_lt_self (by omega) (by omega)

/-- The bias after a difference was written as the `count`-th one. -/
def adapt (delta count : Nat) (first : Bool) : Nat :=
  let delta := if first then delta / 700 else delta / 2
  settleBias (delta + delta / count) 0

structure Progress where
  /-- The digits, the last one first. -/
  written : List Char
  /-- The difference that is to be written next. -/
  delta : Nat
  bias : Nat
  count : Nat

/-- Passes over a character of the label, writing where it stands if its turn has come. -/
def visit (ascii turn : Nat) (p : Progress) (c : Char) : Progress :=
  if c.toNat < turn then { p with delta := p.delta + 1 }
  else if c.toNat = turn then
    { written := (number p.bias base p.delta).reverse ++ p.written
      delta := 0
      bias := adapt p.delta (p.count + 1) (p.count = ascii)
      count := p.count + 1 }
  else p

/-- Writes all occurrences of the code points of a list, each of which is greater than those
before. -/
def occurrences (label : List Char) (ascii : Nat) : List Nat → Nat → Progress → Progress
  | [], _, p => p
  | turn :: rest, least, p =>
    let p := { p with delta := p.delta + (turn - least) * (p.count + 1) }
    let p := label.foldl (visit ascii turn) p
    occurrences label ascii rest (turn + 1) { p with delta := p.delta + 1 }

def isAscii (c : Char) : Bool := c.toNat < 0x80

def encode (label : List Char) : List Char :=
  let plain := label.filter isAscii
  let others := ((label.filter fun c => !isAscii c).map Char.toNat).mergeSort.eraseDups
  let p := occurrences label plain.length others 0x80 ⟨[], 0, 72, plain.length⟩
  plain ++ (if plain.isEmpty then [] else ['-']) ++ p.written.reverse

end RepoWatch.Web.Punycode
