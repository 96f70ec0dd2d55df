import RepoWatch.Json.Basic
import RepoWatch.Json.Cursor
/-!
# Reading JSON text

A strict reader: a document is one value with white space around it, nested at most 127 deep.
What is wrong is reported with its place: the place of the byte just read, or, when the fault is
in a byte not read yet, the place after that byte.
-/

namespace RepoWatch.Json

inductive SyntaxFault where
  | endInList
  | endInObject
  | endInString
  | endInValue
  | expectedColon
  | expectedListCommaOrEnd
  | expectedObjectCommaOrEnd
  | expectedIdent
  | expectedValue
  | invalidEscape
  | invalidNumber
  | numberOutOfRange
  | controlCharacter
  | keyMustBeString
  | loneSurrogate
  | trailingComma
  | trailingCharacters
  | unfinishedSurrogatePair
  | tooDeep
deriving DecidableEq, Repr

def SyntaxFault.message : SyntaxFault → String
  | .endInList => "EOF while parsing a list"
  | .endInObject => "EOF while parsing an object"
  | .endInString => "EOF while parsing a string"
  | .endInValue => "EOF while parsing a value"
  | .expectedColon => "expected `:`"
  | .expectedListCommaOrEnd => "expected `,` or `]`"
  | .expectedObjectCommaOrEnd => "expected `,` or `\x7d`"
  | .expectedIdent => "expected ident"
  | .expectedValue => "expected value"
  | .invalidEscape => "invalid escape"
  | .invalidNumber => "invalid number"
  | .numberOutOfRange => "number out of range"
  | .controlCharacter => "control character (\\u0000-\\u001F) found while parsing a string"
  | .keyMustBeString => "key must be a string"
  | .loneSurrogate => "lone leading surrogate in hex escape"
  | .trailingComma => "trailing comma"
  | .trailingCharacters => "trailing characters"
  | .unfinishedSurrogatePair => "unexpected end of hex escape"
  | .tooDeep => "recursion limit exceeded"

/-- A cause with its place in the text. -/
structure Located (ε : Type) where
  cause : ε
  line : Nat
  column : Nat
deriving DecidableEq, Repr

/-- The outcome of reading: a value, or a fault with its place. -/
abbrev Reading := Except (Located SyntaxFault)

namespace Cursor

def fault {α : Type} (c : Cursor) (cause : SyntaxFault) : Reading α :=
  .error ⟨cause, c.line, c.column⟩

/-- A fault found `count` bytes further on. -/
def faultAfter {α : Type} (c : Cursor) (count : Nat) (cause : SyntaxFault) :
    Reading α :=
  let place := c.placeAfter count
  .error ⟨cause, place.1, place.2⟩

def faultAhead {α : Type} (c : Cursor) (cause : SyntaxFault) : Reading α :=
  c.faultAfter 1 cause

end Cursor

def readWord : List Char → Cursor → Reading (Unit × Cursor)
  | [], c => .ok ((), c)
  | x :: word, c =>
    match c.peek? with
    | none => c.fault .endInValue
    | some y => if x = y then readWord word c.advance else c.faultAhead .expectedIdent

def hexValue? (x : Char) : Option Nat :=
  if '0' ≤ x ∧ x ≤ '9' then some (x.toNat - '0'.toNat)
  else if 'a' ≤ x ∧ x ≤ 'f' then some (x.toNat - 'a'.toNat + 10)
  else if 'A' ≤ x ∧ x ≤ 'F' then some (x.toNat - 'A'.toNat + 10)
  else none

def readHex (c : Cursor) : Reading (Nat × Cursor) :=
  if c.bytesLeft < 4 then c.faultAfter c.bytesLeft .endInString
  else
    match c.rest with
    | w :: x :: y :: z :: _ =>
      match hexValue? w, hexValue? x, hexValue? y, hexValue? z with
      | some w, some x, some y, some z =>
        .ok (((w * 16 + x) * 16 + y) * 16 + z, c.advance.advance.advance.advance)
      | _, _, _, _ => c.faultAfter 4 .invalidEscape
    | _ => c.faultAfter 4 .invalidEscape

/-- Reads one character that the second half of a surrogate pair needs. -/
def readPairMark (mark : Char) (c : Cursor) : Reading (Unit × Cursor) :=
  match c.peek? with
  | none => c.fault .endInString
  | some x => if x = mark then .ok ((), c.advance) else c.faultAhead .unfinishedSurrogatePair

/-- Reads the digits of a `\u` escape, both halves of a surrogate pair at once. -/
def readUnicode (c : Cursor) : Reading (Char × Cursor) := do
  let (high, c) ← readHex c
  if 0xDC00 ≤ high ∧ high ≤ 0xDFFF then c.fault .loneSurrogate
  else if high < 0xD800 ∨ 0xDBFF < high then .ok (Char.ofNat high, c)
  else
    let ((), c) ← readPairMark '\\' c
    let ((), c) ← readPairMark 'u' c
    let (low, c) ← readHex c
    if low < 0xDC00 ∨ 0xDFFF < low then c.fault .loneSurrogate
    else .ok (Char.ofNat ((high - 0xD800) * 1024 + (low - 0xDC00) + 0x10000), c)

def readEscape (c : Cursor) : Reading (Char × Cursor) :=
  match c.peek? with
  | none => c.fault .endInString
  | some '"' => .ok ('"', c.advance)
  | some '\\' => .ok ('\\', c.advance)
  | some '/' => .ok ('/', c.advance)
  | some 'b' => .ok ('\x08', c.advance)
  | some 'f' => .ok ('\x0c', c.advance)
  | some 'n' => .ok ('\n', c.advance)
  | some 'r' => .ok ('\r', c.advance)
  | some 't' => .ok ('\t', c.advance)
  | some 'u' => readUnicode c.advance
  | some _ => c.faultAhead .invalidEscape

def readString (c : Cursor) : Reading (String × Cursor) := go (c.rest.length + 1) c []
where
  go : Nat → Cursor → List Char → Reading (String × Cursor)
    | 0, c, _ => c.fault .endInString
    | fuel + 1, c, seen =>
      match c.peek? with
      | none => c.fault .endInString
      | some '"' => .ok (String.ofList seen.reverse, c.advance)
      | some '\\' => do
        let (x, c) ← readEscape c.advance
        go fuel c (x :: seen)
      | some x =>
        if x.toNat < 0x20 then c.faultAhead .controlCharacter
        else go fuel c.advance (x :: seen)

/-- The greatest significand that a numeral can hold. -/
def significandLimit : Nat := 0xFFFFFFFFFFFFFFFF

def exponentLimit : Nat := 0x7FFFFFFF

/-- Digits taken into a number as long as it stays within a limit. -/
structure Digits where
  value : Nat
  /-- How many digits were taken. -/
  taken : Nat
  /-- Where the first digit left out stands, or the first character that is no digit. -/
  next : Cursor

/-- Takes decimal digits as long as the value stays within `limit`. -/
def readDigits (limit start : Nat) (c : Cursor) : Digits :=
  go (c.rest.length) start 0 c
where
  go : Nat → Nat → Nat → Cursor → Digits
    | 0, value, taken, c => ⟨value, taken, c⟩
    | fuel + 1, value, taken, c =>
      match c.peek? with
      | none => ⟨value, taken, c⟩
      | some x =>
        let value' := value * 10 + (x.toNat - '0'.toNat)
        if x.isDigit ∧ value' ≤ limit then go fuel value' (taken + 1) c.advance
        else ⟨value, taken, c⟩

def Cursor.atDigit (c : Cursor) : Bool := (c.peek?.map Char.isDigit).getD false

def Cursor.atExponent (c : Cursor) : Bool := c.peek? == some 'e' || c.peek? == some 'E'

/-- The double that a numeral denotes, read up to `c`. -/
def finishDouble (negative : Bool) (significand : Nat) (exponent : Int) (c : Cursor) :
    Reading (Json × Cursor) :=
  match Double.ofDecimal? negative significand exponent with
  | some d => .ok (.double d, c)
  | none => c.fault .numberOutOfRange

/-- Reads an exponent from its mark on. An exponent beyond the limit gives zero, or is out of
range when it would make the number too large. -/
def readExponent (negative : Bool) (significand : Nat) (scale : Int) (c : Cursor) :
    Reading (Json × Cursor) :=
  let c := c.advance
  let down := c.peek? == some '-'
  let c := if down || c.peek? == some '+' then c.advance else c
  match c.peek? with
  | none => c.fault .endInValue
  | some x =>
    if !x.isDigit then c.faultAhead .invalidNumber
    else
      let digits := readDigits exponentLimit 0 c
      if digits.next.atDigit then
        let c := digits.next.advance
        if significand ≠ 0 ∧ !down then c.fault .numberOutOfRange
        else .ok (.double (.zero negative), c.skipWhile Char.isDigit)
      else
        let exponent : Int := if down then scale - digits.value else scale + digits.value
        finishDouble negative significand exponent digits.next

/-- Reads what follows the digits of a double: its exponent, if there is one. -/
def readScale (negative : Bool) (significand : Nat) (scale : Int) (c : Cursor) :
    Reading (Json × Cursor) :=
  if c.atExponent then readExponent negative significand scale c
  else finishDouble negative significand scale c

/-- Reads a fraction from its point on. Digits beyond the significand's limit are left out. -/
def readFraction (negative : Bool) (significand : Nat) (scale : Int) (c : Cursor) :
    Reading (Json × Cursor) :=
  let digits := readDigits significandLimit significand c.advance
  let scale := scale - digits.taken
  if digits.next.atDigit then
    readScale negative digits.value scale (digits.next.skipWhile Char.isDigit)
  else if digits.taken = 0 then
    if digits.next.rest.isEmpty then digits.next.fault .endInValue
    else digits.next.faultAhead .invalidNumber
  else readScale negative digits.value scale digits.next

/-- Counts the digits of an integer part that do not fit the significand. -/
def readLongInteger (negative : Bool) (significand : Nat) (c : Cursor) : Reading (Json × Cursor) :=
  let next := c.skipWhile Char.isDigit
  let scale : Int := c.rest.length - next.rest.length
  if next.peek? == some '.' then readFraction negative significand scale next
  else readScale negative significand scale next

/-- The number that an integer part denotes when nothing follows it: a negative zero and an
integer below the range are doubles. -/
def integerNumeral (negative : Bool) (significand : Nat) : Json :=
  if !negative then .integer significand
  else if significand = 0 ∨ 0x8000000000000000 < significand then
    .double ((Double.nearest? true significand 1).getD (.zero true))
  else .integer (-significand)

def readNumber (negative : Bool) (c : Cursor) : Reading (Json × Cursor) :=
  match c.peek? with
  | none => c.fault .endInValue
  | some x =>
    if !x.isDigit then c.faultAhead .invalidNumber
    else
      let digits : Digits := if x = '0' then ⟨0, 1, c.advance⟩ else
        readDigits significandLimit 0 c
      let next := digits.next
      if next.atDigit then
        if x = '0' then next.faultAhead .invalidNumber
        else readLongInteger negative digits.value next
      else if next.peek? == some '.' then readFraction negative digits.value 0 next
      else if next.atExponent then readExponent negative digits.value 0 next
      else .ok (integerNumeral negative digits.value, next)

/-- Reads the sign and the digits of a number, or one of the words `null`, `true`, `false`;
anything else is no value. -/
def readScalar (c : Cursor) : Reading (Json × Cursor) :=
  match c.peek? with
  | some 'n' => do
    let ((), c) ← readWord "ull".toList c.advance
    return (.null, c)
  | some 't' => do
    let ((), c) ← readWord "rue".toList c.advance
    return (.bool true, c)
  | some 'f' => do
    let ((), c) ← readWord "alse".toList c.advance
    return (.bool false, c)
  | some '-' => readNumber true c.advance
  | some x => if x.isDigit then readNumber false c else c.faultAhead .expectedValue
  | none => c.fault .endInValue

def readColon (c : Cursor) : Reading (Unit × Cursor) :=
  let c := c.skipBlank
  match c.peek? with
  | some ':' => .ok ((), c.advance)
  | some _ => c.faultAhead .expectedColon
  | none => c.fault .endInObject

/-- What separates items: the next item follows, or the list ends. -/
def readItemStart (first : Bool) (c : Cursor) : Reading (Bool × Cursor) :=
  let c := c.skipBlank
  match c.peek? with
  | none => c.fault .endInList
  | some ']' => .ok (false, c.advance)
  | some ',' =>
    if first then .ok (true, c)
    else
      let c := c.advance.skipBlank
      match c.peek? with
      | some ']' => c.faultAhead .trailingComma
      | some _ => .ok (true, c)
      | none => c.fault .endInValue
  | some _ => if first then .ok (true, c) else c.faultAhead .expectedListCommaOrEnd

/-- What separates fields: the opening quote of the next key was read, or the object ends. -/
def readKeyStart (first : Bool) (c : Cursor) : Reading (Bool × Cursor) :=
  let c := c.skipBlank
  match c.peek? with
  | none => c.fault .endInObject
  | some '\x7d' => .ok (false, c.advance)
  | some x =>
    if first then
      if x = '"' then .ok (true, c.advance) else c.faultAhead .keyMustBeString
    else if x = ',' then
      let c := c.advance.skipBlank
      match c.peek? with
      | some '"' => .ok (true, c.advance)
      | some '\x7d' => c.faultAhead .trailingComma
      | some _ => c.faultAhead .keyMustBeString
      | none => c.fault .endInValue
    else c.faultAhead .expectedObjectCommaOrEnd

/-- How deep arrays and objects may be nested, less one. -/
def depthLimit : Nat := 128

mutual

/-- Reads a value; `depth` more levels may be opened, less one. -/
def readValue : Nat → Nat → Cursor → Reading (Json × Cursor)
  | 0, _, c => c.fault .tooDeep
  | fuel + 1, depth, c =>
    let c := c.skipBlank
    match c.peek? with
    | some '"' => do
      let (s, c) ← readString c.advance
      return (.string s, c)
    | some '[' =>
      if depth ≤ 1 then c.faultAhead .tooDeep
      else readItems fuel (depth - 1) true [] c.advance
    | some '\x7b' =>
      if depth ≤ 1 then c.faultAhead .tooDeep
      else readFields fuel (depth - 1) true [] c.advance
    | _ => readScalar c

/-- Reads the rest of an array, the items seen so far being given last first. -/
def readItems : Nat → Nat → Bool → List Json → Cursor → Reading (Json × Cursor)
  | 0, _, _, _, c => c.fault .tooDeep
  | fuel + 1, depth, first, seen, c => do
    let (more, c) ← readItemStart first c
    if more then
      let (item, c) ← readValue fuel depth c
      readItems fuel depth false (item :: seen) c
    else return (.array seen.reverse, c)

/-- Reads the rest of an object, the fields seen so far being given sorted. -/
def readFields : Nat → Nat → Bool → List (String × Json) → Cursor → Reading (Json × Cursor)
  | 0, _, _, _, c => c.fault .tooDeep
  | fuel + 1, depth, first, seen, c => do
    let (more, c) ← readKeyStart first c
    if more then
      let (key, c) ← readString c
      let ((), c) ← readColon c
      let (value, c) ← readValue fuel depth c
      readFields fuel depth false (insertField key value seen) c
    else return (.object seen, c)

end

def readEnd (c : Cursor) : Reading Unit :=
  let c := c.skipBlank
  if c.rest.isEmpty then .ok () else c.faultAhead .trailingCharacters

def read (text : String) : Reading Json := do
  let c := Cursor.start text
  let (value, c) ← readValue (2 * c.rest.length + 2) depthLimit c
  readEnd c
  return value

end RepoWatch.Json
