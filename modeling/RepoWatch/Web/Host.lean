import RepoWatch.Web.Percent
import RepoWatch.Web.Punycode
/-!
# Hosts

The host of an address: a name, or a number of version 4 or 6 of the internet protocol. A name
whose last label looks like a number has to be a number of version 4; the usual schemes write
names in ASCII, the other schemes take them as they are.
-/

namespace RepoWatch.Web

inductive AddressFault where
  | noScheme
  | emptyHost
  | unusableName
  | unusableCharacter
  | invalidPort
  | invalidNumber4
  | invalidNumber6
deriving DecidableEq, Repr

def AddressFault.label : AddressFault → String
  | .noScheme => "RelativeUrlWithoutBase"
  | .emptyHost => "EmptyHost"
  | .unusableName => "IdnaError"
  | .unusableCharacter => "InvalidDomainCharacter"
  | .invalidPort => "InvalidPort"
  | .invalidNumber4 => "InvalidIpv4Address"
  | .invalidNumber6 => "InvalidIpv6Address"

inductive Host where
  | name (text : String)
  | number4 (value : Nat)
  | number6 (pieces : List Nat)
deriving DecidableEq, Repr

def Host.empty : Host := .name ""

def splitAt (separator : Char) (cs : List Char) : List (List Char) :=
  cs.foldr
    (fun c parts =>
      if c = separator then [] :: parts
      else
        match parts with
        | [] => [[c]]
        | part :: rest => (c :: part) :: rest)
    [[]]

/-- The number that digits denote; nothing when one is no digit of the base. -/
def digits? (base : Nat) (cs : List Char) : Option Nat :=
  cs.foldlM (fun n c => do
    let d ← (utf8Bytes c).head?.bind hexDigit?
    if d < base then some (n * base + d) else none) 0

/-! ## Version 4 -/

/-- One part of a number: hexadecimal after `0x`, octal after `0`, else decimal. -/
def part4? : List Char → Option Nat
  | [] => none
  | '0' :: 'x' :: cs | '0' :: 'X' :: cs => digits? 16 cs
  | '0' :: c :: cs => digits? 8 (c :: cs)
  | cs => digits? 10 cs

def withoutFinal (parts : List (List Char)) : List (List Char) :=
  if parts.getLast? = some [] then parts.dropLast else parts

/-- Whether the last part of a name looks like a number. -/
def endsInNumber (parts : List (List Char)) : Bool :=
  match (withoutFinal parts).getLast? with
  | none | some [] => false
  | some last => last.all Char.isDigit || (part4? last).isSome

/-- A number of version 4: every part but the last is a byte, the last fills the rest. -/
def readNumber4 (parts : List (List Char)) : Except AddressFault Host :=
  let parts := withoutFinal parts
  match parts.mapM part4? with
  | none => .error .invalidNumber4
  | some values =>
    let bytes := values.dropLast
    let rest := values.getLastD 0
    if values.length ≤ 4 ∧ bytes.all (· < 256) ∧ rest < Nat.pow 256 (4 - bytes.length) then
      let high := bytes.foldl (fun n b => n * 256 + b) 0
      .ok (.number4 (high * Nat.pow 256 (4 - bytes.length) + rest))
    else .error .invalidNumber4

/-! ## Version 6 -/

/-- A piece: one to four hexadecimal digits. -/
def piece? (cs : List Char) : Option Nat :=
  if cs.isEmpty ∨ 4 < cs.length then none else digits? 16 cs

/-- A byte in decimal digits, without leading zeros. -/
def byte? (cs : List Char) : Option Nat := do
  let n ← if cs.isEmpty then none else digits? 10 cs
  if n < 256 ∧ (cs.length = 1 ∨ cs.head? ≠ some '0') then some n else none

/-- The last piece, or the last two written as a number of version 4. -/
def lastPieces? (cs : List Char) : Option (List Nat) :=
  match splitAt '.' cs with
  | [a, b, c, d] => do
    return [(← byte? a) * 256 + (← byte? b), (← byte? c) * 256 + (← byte? d)]
  | _ => do return [← piece? cs]

/-- The pieces of a text without an omission; `final` says whether the number ends with it. -/
def pieces? (final : Bool) (cs : List Char) : Option (List Nat) :=
  if cs.isEmpty then some []
  else
    let groups := splitAt ':' cs
    if final then do
      let pieces ← groups.dropLast.mapM piece?
      return pieces ++ (← lastPieces? (groups.getLastD []))
    else groups.mapM piece?

def splitOmission : List Char → List Char × Option (List Char)
  | ':' :: ':' :: rest => ([], some rest)
  | c :: rest =>
    let (before, after) := splitOmission rest
    (c :: before, after)
  | [] => ([], none)

/-- A number of version 6: eight pieces, or fewer around one omission of zeros. -/
def readNumber6 (cs : List Char) : Except AddressFault Host :=
  let (before, after) := splitOmission cs
  let pieces := match after with
    | none => do
      let pieces ← if before.isEmpty then none else pieces? true before
      if pieces.length = 8 then some pieces else none
    | some after => do
      let left ← pieces? false before
      let right ← pieces? true after
      if left.length + right.length < 8 then
        some (left ++ List.replicate (8 - left.length - right.length) 0 ++ right)
      else none
  match pieces with
  | some pieces => .ok (.number6 pieces)
  | none => .error .invalidNumber6

/-! ## Names -/

/-- What may not stand in a name of the usual schemes. -/
def isDenied (c : Char) : Bool :=
  c.toNat ≤ 0x20 || c.toNat == 0x7f
    || ['%', '#', '/', ':', '<', '>', '?', '@', '[', '\\', ']', '^', '|'].contains c

def asciiLabel (label : List Char) : List Char :=
  let label := label.map Char.toLower
  if label.all Punycode.isAscii then label else "xn--".toList ++ Punycode.encode label

def Host.usual (cs : List Char) : Except AddressFault Host :=
  let bytes := percentDecode (cs.flatMap utf8Bytes)
  match String.fromUTF8? ⟨bytes.toArray⟩ with
  | none => .error .unusableName
  | some text =>
    let labels := (splitAt '.' text.toList).map asciiLabel
    let ascii := ['.'].intercalate labels
    if ascii.any isDenied then .error .unusableName
    else if ascii.isEmpty then .error .emptyHost
    else if endsInNumber labels then readNumber4 labels
    else .ok (.name (String.ofList ascii))

/-- What may not stand in a name of the other schemes. -/
def isUnusable (c : Char) : Bool :=
  ['\x00', '\t', '\n', '\r', ' ', '#', '/', ':', '<', '>', '?', '@', '[', '\\', ']', '^',
    '|'].contains c

def Host.other (cs : List Char) : Except AddressFault Host :=
  if cs.any isUnusable then .error .unusableCharacter
  else .ok (.name (String.ofList (percentEncode isControl cs)))

/-- A host; between brackets stands a number of version 6. -/
def Host.read (usual : Bool) (cs : List Char) : Except AddressFault Host :=
  match cs with
  | '[' :: rest =>
    if rest.getLast? = some ']' then readNumber6 rest.dropLast else .error .invalidNumber6
  | cs => if usual then Host.usual cs else Host.other cs

/-! ## Writing -/

def leadingZeros (pieces : List Nat) : Nat := (pieces.takeWhile (· = 0)).length

/-- The start and length of the longest run of zeros, of several the first. -/
def longestRun (pieces : List Nat) : Nat × Nat :=
  (List.range pieces.length).foldl
    (fun best start =>
      let length := leadingZeros (pieces.drop start)
      if best.2 < length then (start, length) else best)
    (0, 0)

/-- Pieces in hexadecimal digits, with colons between. -/
def piecesText (pieces : List Nat) : List Char :=
  [':'].intercalate (pieces.map fun n => Nat.toDigits 16 n)

/-- The text of a number of version 6: its longest run of zeros is left out, unless it is only
one. -/
def number6Text (pieces : List Nat) : List Char :=
  let (start, length) := longestRun pieces
  if length < 2 then piecesText pieces
  else piecesText (pieces.take start) ++ [':', ':'] ++ piecesText (pieces.drop (start + length))

def Host.text : Host → String
  | .name text => text
  | .number4 n =>
    ".".intercalate ([0x1000000, 0x10000, 0x100, 1].map fun unit => toString (n / unit % 256))
  | .number6 pieces => "[" ++ String.ofList (number6Text pieces) ++ "]"

end RepoWatch.Web
