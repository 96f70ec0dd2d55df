import RepoWatch.Json.Skip
import RepoWatch.Payload.Decoder
/-!
# Decoding from text

Reads a value of a known form straight from its text, so that what is wrong is reported with its
place, and before anything that follows it. A record may be spelled as an object or as an array
of all its fields; a fault of the record as a whole is placed where the record ends.
-/

namespace RepoWatch.Payload

open Json (Cursor Located Reading SyntaxFault)

/-- Why a text does not hold a value of the expected form. -/
inductive TextFault where
  | malformed (fault : SyntaxFault)
  | decode (fault : DecodeFault)
  | duplicate (key : String)
  /-- A value is of none of the forms of a choice. -/
  | noChoice (name : String)

def TextFault.message : TextFault → String
  | .malformed fault => fault.message
  | .decode fault => fault.message
  | .duplicate key => "duplicate field `" ++ key ++ "`"
  | .noChoice name => "data did not match any variant of untagged enum " ++ name

/-- A fault, with its place if that is known already. -/
inductive Stop where
  | placed (fault : Located TextFault)
  /-- The place is that of the end of the enclosing array or object. -/
  | pending (cause : TextFault) (c : Cursor)

/-- A way to read values of a type from text. -/
abbrev TextDecoder (α : Type) := Cursor → Except Stop (α × Cursor)

def ofReading {α : Type} : Reading α → Except Stop α
  | .ok a => .ok a
  | .error ⟨cause, line, column⟩ => .error (.placed ⟨.malformed cause, line, column⟩)

def stopAt {α : Type} (c : Cursor) (cause : TextFault) : Except Stop α :=
  .error (.placed ⟨cause, c.line, c.column⟩)

/-- A value that is neither an array nor an object. Those are refused before they are read. -/
def scalar {α : Type} (decode : Decoder α) : TextDecoder α := fun c => do
  let c := c.skipBlank
  let (v, c) ← match c.peek? with
    | some '[' => pure (Json.array [], c)
    | some '\x7b' => pure (Json.object [], c)
    | some '"' => do
      let (s, c) ← ofReading (Json.readString c.advance)
      pure (Json.string s, c)
    | _ => ofReading (Json.readScalar c)
  match decode v with
  | .ok a => return (a, c)
  | .error fault => stopAt c (.decode fault)

/-- A value that is not of the expected kind. -/
def refuse {α : Type} (expected : String) : TextDecoder α :=
  scalar fun v => .error (.unexpected v expected)

/-- Any value, inside so many arrays and objects. -/
def anything (depth : Nat) : TextDecoder Json := fun c =>
  ofReading (Json.readValue (2 * c.rest.length + 2) (Json.depthLimit - depth) c)

def orNull {α : Type} (decode : TextDecoder α) : TextDecoder (Option α) := fun c => do
  let c := c.skipBlank
  if c.peek? == some 'n' then
    let ((), c) ← ofReading (Json.readWord "ull".toList c.advance)
    return (none, c)
  else
    let (a, c) ← decode c
    return (some a, c)

/-! ## Arrays and objects -/

/-- Whether an item comes next in an array, whose end is left unread. -/
def nextItem (first : Bool) : TextDecoder Bool := fun c => do
  let (more, next) ← ofReading (Json.readItemStart first c)
  return (more, if more then next else c.skipBlank)

/-- The next key of an object, whose end is left unread. -/
def nextKey (first : Bool) : TextDecoder (Option String) := fun c => do
  let (more, next) ← ofReading (Json.readKeyStart first c)
  if more then
    let (key, c) ← ofReading (Json.readString next)
    return (some key, c)
  else return (none, c.skipBlank)

/-- The bracket that ends an array or an object. -/
structure Bracket where
  mark : Char
  /-- What is wrong when the text ends instead. -/
  atEnd : SyntaxFault

def listEnd : Bracket := ⟨']', .endInList⟩

def objectEnd : Bracket := ⟨'\x7d', .endInObject⟩

/-- Reads a closing bracket: where the reader stands afterwards, and what is wrong if something
else stands there. After a comma of an array the reader looks one step further. -/
def Bracket.close (b : Bracket) (c : Cursor) : Cursor × Option (Located SyntaxFault) :=
  let c := c.skipBlank
  let wrong (c : Cursor) (cause : SyntaxFault) :=
    let place := c.placeAfter 1
    (c, some ⟨cause, place.1, place.2⟩)
  match c.peek? with
  | none => wrong c b.atEnd
  | some x =>
    if x = b.mark then (c.advance, none)
    else if x ≠ ',' then wrong c .trailingCharacters
    else if b.mark ≠ ']' then wrong c .trailingComma
    else
      let c := c.advance.skipBlank
      wrong c (if c.peek? = some ']' then .trailingComma else .trailingCharacters)

/-- Reads what stands between brackets, the first one being read, and the closing one. -/
def enclosed {α : Type} (b : Bracket) (decode : TextDecoder α) : TextDecoder α := fun c =>
  match decode c with
  | .error (.placed fault) => .error (.placed fault)
  | .error (.pending cause c) => stopAt (b.close c).1 cause
  | .ok (a, c) =>
    match b.close c with
    | (c, none) => .ok (a, c)
    | (_, some fault) => ofReading (.error fault)

/-- The items of an array, in order. -/
def itemsOf {α : Type} (decode : TextDecoder α) : Nat → Bool → TextDecoder (List α)
  | 0, _, c => .ok ([], c)
  | fuel + 1, first, c => do
    let (more, c) ← nextItem first c
    if more then
      let (a, c) ← decode c
      let (rest, c) ← itemsOf decode fuel false c
      return (a :: rest, c)
    else return ([], c)

def listOf {α : Type} (decode : TextDecoder α) : TextDecoder (List α) := fun c =>
  let c := c.skipBlank
  match c.peek? with
  | some '[' => enclosed listEnd (itemsOf decode (c.rest.length + 1) true) c.advance
  | _ => refuse "a sequence" c

/-- The entries of an object, in order. -/
def entriesOf {α : Type} (decode : TextDecoder α) : Nat → Bool → TextDecoder (List (String × α))
  | 0, _, c => .ok ([], c)
  | fuel + 1, first, c => do
    match ← nextKey first c with
    | (some key, c) =>
      let ((), c) ← ofReading (Json.readColon c)
      let (a, c) ← decode c
      let (rest, c) ← entriesOf decode fuel false c
      return ((key, a) :: rest, c)
    | (none, c) => return ([], c)

def mapOf {α : Type} (decode : TextDecoder α) : TextDecoder (List (String × α)) := fun c =>
  let c := c.skipBlank
  match c.peek? with
  | some '\x7b' => enclosed objectEnd (entriesOf decode (c.rest.length + 1) true) c.advance
  | _ => refuse "a map" c

/-! ## Records -/

/-- A field of a record that is being collected. -/
structure Slot (σ : Type) where
  key : String
  isFilled : σ → Bool
  fill : σ → TextDecoder σ

/-- How a record is collected from its fields. -/
structure Collector (σ α : Type) where
  name : String
  slots : List (Slot σ)
  start : σ
  /-- The record, or the field that is missing. -/
  finish : σ → Except DecodeFault α

namespace Collector

variable {σ α : Type}

def complete (r : Collector σ α) (s : σ) : TextDecoder α := fun c =>
  match r.finish s with
  | .ok a => .ok (a, c)
  | .error fault => .error (.pending (.decode fault) c)

/-- Collects the fields of an object, in any order; other fields are skipped. -/
def fromFields (r : Collector σ α) : Nat → Bool → σ → TextDecoder α
  | 0, _, s, c => r.complete s c
  | fuel + 1, first, s, c => do
    match ← nextKey first c with
    | (none, c) => r.complete s c
    | (some key, c) =>
      match r.slots.find? fun slot => slot.key = key with
      | some slot =>
        if slot.isFilled s then throw (.pending (.duplicate key) c)
        let ((), c) ← ofReading (Json.readColon c)
        let (s, c) ← slot.fill s c
        r.fromFields fuel false s c
      | none =>
        let ((), c) ← ofReading (Json.readColon c)
        r.fromFields fuel false s (← ofReading (Json.skip c))

/-- Collects the fields from an array, in the order of their declaration. -/
def fromItems (r : Collector σ α) : List (Slot σ) → Nat → σ → TextDecoder α
  | [], _, s, c => r.complete s c
  | slot :: slots, index, s, c => do
    let (more, c) ← nextItem (index = 0) c
    if !more then throw (.pending (.decode (.tooShort index r.name r.slots.length)) c)
    let (s, c) ← slot.fill s c
    r.fromItems slots (index + 1) s c

def decode (r : Collector σ α) : TextDecoder α := fun c =>
  let c := c.skipBlank
  match c.peek? with
  | some '\x7b' => enclosed objectEnd (r.fromFields (c.rest.length + 1) true r.start) c.advance
  | some '[' => enclosed listEnd (r.fromItems r.slots 0 r.start) c.advance
  | _ => refuse ("struct " ++ r.name) c

end Collector

def decodeText {α : Type} (decode : TextDecoder α) (text : String) :
    Except (Located TextFault) α :=
  let whole : Except Stop α := do
    let (a, c) ← decode (Cursor.start text)
    ofReading (Json.readEnd c)
    return a
  match whole with
  | .ok a => .ok a
  | .error (.placed fault) => .error fault
  | .error (.pending cause c) => .error ⟨cause, c.line, c.column⟩

end RepoWatch.Payload
