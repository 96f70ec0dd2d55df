/-!
# Percent-encoding

Characters that may not stand in a part of an address are written byte by byte, each byte as a
percent sign with two hexadecimal digits. Which characters these are depends on the part.
-/

namespace RepoWatch.Web

/-- A hexadecimal digit, in capitals. -/
def hexDigit (n : Nat) : Char :=
  if n < 10 then Char.ofNat ('0'.toNat + n) else Char.ofNat ('A'.toNat + (n - 10))

/-- A byte as it is written when it may not stand for itself. -/
def percentByte (b : UInt8) : List Char :=
  ['%', hexDigit (b.toNat / 16), hexDigit (b.toNat % 16)]

def utf8Bytes (c : Char) : List UInt8 := (String.singleton c).toUTF8.toList

/-- Writes the characters that satisfy `reserved` byte by byte. -/
def percentEncode (reserved : Char → Bool) (cs : List Char) : List Char :=
  cs.flatMap fun c => if reserved c then (utf8Bytes c).flatMap percentByte else [c]

/-! ## What is reserved -/

/-- A control character, or one that is not ASCII. -/
def isControl (c : Char) : Bool := c.toNat < 0x20 || 0x7e < c.toNat

def isFragmentReserved (c : Char) : Bool := isControl c || [' ', '"', '<', '>', '\x60'].contains c

def isPathReserved (c : Char) : Bool :=
  isFragmentReserved c || ['#', '?', '\x7b', '\x7d'].contains c

/-- What is reserved in a query; of the usual schemes also the apostrophe. -/
def isQueryReserved (usual : Bool) (c : Char) : Bool :=
  isControl c || [' ', '"', '#', '<', '>'].contains c || (usual && c == '\x27')

/-! ## Decoding -/

def hexDigit? (b : UInt8) : Option Nat :=
  let n := b.toNat
  if 0x30 ≤ n ∧ n ≤ 0x39 then some (n - 0x30)
  else if 0x41 ≤ n ∧ n ≤ 0x46 then some (n - 0x41 + 10)
  else if 0x61 ≤ n ∧ n ≤ 0x66 then some (n - 0x61 + 10)
  else none

/-- The bytes that a percent-encoded text stands for; a percent sign without two hexadecimal
digits stands for itself. -/
def percentDecode : List UInt8 → List UInt8
  | 0x25 :: x :: y :: rest =>
    match hexDigit? x, hexDigit? y with
    | some x, some y => UInt8.ofNat (x * 16 + y) :: percentDecode rest
    | _, _ => 0x25 :: percentDecode (x :: y :: rest)
  | b :: rest => b :: percentDecode rest
  | [] => []

end RepoWatch.Web
