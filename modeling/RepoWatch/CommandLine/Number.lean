/-!
# Numbers on the command line

Whole numbers in decimal digits, with an optional sign. A number is read from the left, so the
first digit that is none and the first digit that makes the number too large are told apart by
which of them comes first.
-/

namespace RepoWatch.CommandLine

/-- Why a text is no acceptable number. -/
inductive NumberFault where
  | empty
  | invalidDigit
  | tooLarge
  | tooSmall
  | outside (value least greatest : Int)
deriving DecidableEq, Repr

def NumberFault.message : NumberFault → String
  | .empty => "cannot parse integer from empty string"
  | .invalidDigit => "invalid digit found in string"
  | .tooLarge => "number too large to fit in target type"
  | .tooSmall => "number too small to fit in target type"
  | .outside value least greatest =>
    toString value ++ " is not in " ++ toString least ++ "..=" ++ toString greatest

/-- Reads digits up to a greatest value; `excess` is the fault of a greater one. -/
def readDigits (greatest : Nat) (excess : NumberFault) : List Char → Nat → Except NumberFault Nat
  | [], n => .ok n
  | c :: cs, n =>
    if !c.isDigit then .error .invalidDigit
    else
      let n := n * 10 + (c.toNat - '0'.toNat)
      if greatest < n then .error excess else readDigits greatest excess cs n

/-- Reads the digits after a sign; there has to be one. -/
def readMagnitude (greatest : Nat) (excess : NumberFault) (cs : List Char) :
    Except NumberFault Nat :=
  if cs.isEmpty then .error .invalidDigit else readDigits greatest excess cs 0

def unsignedLimit : Nat := 0xFFFFFFFFFFFFFFFF

def signedLimit : Nat := 0x7FFFFFFFFFFFFFFF

def readUnsigned (text : String) : Except NumberFault Nat :=
  match text.toList with
  | [] => .error .empty
  | '+' :: cs => readMagnitude unsignedLimit .tooLarge cs
  | cs => readMagnitude unsignedLimit .tooLarge cs

def readSigned (text : String) : Except NumberFault Int :=
  match text.toList with
  | [] => .error .empty
  | '+' :: cs => Int.ofNat <$> readMagnitude signedLimit .tooLarge cs
  | '-' :: cs => (fun n : Nat => -(n : Int)) <$> readMagnitude (signedLimit + 1) .tooSmall cs
  | cs => Int.ofNat <$> readMagnitude signedLimit .tooLarge cs

def wordLimit : Nat := 0xFFFFFFFF

/-- Reads an unsigned word of 32 bits: a signed word of 64 bits within its range. -/
def readWord (text : String) : Except NumberFault UInt32 := do
  let value ← readSigned text
  if 0 ≤ value ∧ value ≤ wordLimit then return UInt32.ofNat value.toNat
  else throw (.outside value 0 wordLimit)

end RepoWatch.CommandLine
