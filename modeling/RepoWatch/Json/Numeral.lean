import RepoWatch.Decimal.Shortest
/-!
# Numerals of doubles

How a double is written in a document and in a message: the shortest digits that read back,
positional between `1e-5` and `1e16`, otherwise with a signed exponent. A numeral always shows
that it is no integer: it holds a point or an exponent.
-/

namespace RepoWatch.Double

/-- The least and the greatest leading exponent that are written positionally. -/
def positionalRange : Int × Int := (-5, 15)

/-- The numeral of a decimal number that is not zero. -/
private def positionalOrScientific (d : Decimal) : String :=
  let digits := toString d.digits
  let count := digits.length
  let lead := d.exponent + count - 1
  if positionalRange.1 ≤ lead ∧ lead ≤ positionalRange.2 then
    if 0 ≤ d.exponent then digits ++ String.ofList (List.replicate d.exponent.toNat '0') ++ ".0"
    else if 0 ≤ lead then
      let whole := (lead + 1).toNat
      String.ofList (digits.toList.take whole) ++ "." ++ String.ofList (digits.toList.drop whole)
    else "0." ++ String.ofList (List.replicate (-lead - 1).toNat '0') ++ digits
  else
    let mark := if 0 ≤ lead then "e+" else "e-"
    let fraction := if count = 1 then "" else "." ++ String.ofList (digits.toList.drop 1)
    String.ofList (digits.toList.take 1) ++ fraction ++ mark ++ toString lead.natAbs

def numeral (d : Double) : String :=
  let sign := if d.negative then "-" else ""
  if d.magnitude = 0 then sign ++ "0.0" else sign ++ positionalOrScientific (Decimal.shortest d)

end RepoWatch.Double
